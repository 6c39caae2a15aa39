import Roster.Directory.View
import Roster.Proofs.Directory.Knowledge
import Roster.Proofs.Directory.Listing
import Roster.Proofs.Directory.Selection
import Roster.Proofs.Store.Ranking

/-!
# A directory without a network

The store gives the list of organizations and answers for their details. Both come from the same
rows, so details that arrive add what the list leaves out and change nothing that it tells. A
directory that is fed by one store therefore goes on listing what passes its filter, shows the same
texts, and asks for the details of an organization once.
-/

namespace Roster

/-! ## Organizations without their details -/

/-- An organization as far as the list tells of it. -/
def Organization.outline (o : Organization) : Organization :=
  { o with url := none, kind := none, givesRatings := none, isPublic := none }

/-- Filters judge by the outline. -/
theorem Filter.keeps_outline (f : Filter) (o : Organization) : f.keeps o.outline = f.keeps o := rfl

namespace Directory

/-- Rows show the outline. -/
theorem rowView_outline (d : Directory) (o : Organization) : d.rowView o.outline = d.rowView o := rfl

/-- The texts of the rows on the page are read off the texts of all rows. -/
theorem map_rowView_rows (d : Directory) :
    d.rows.map d.rowView =
      (Page.slice d.listed d.page d.pageSize).filterMap
        fun index => (d.organizations.map d.rowView)[index]? := by
  simp only [rows, List.map_filterMap, List.getElem?_map]

/-- Details that are taken in without changing an outline change nothing that is shown. -/
theorem view_receiveDetail {d : Directory} {id : OrganizationId}
    {result : Fetched OrganizationDetail}
    (h : (d.receiveDetail id result).state.organizations.map Organization.outline =
      d.organizations.map Organization.outline) :
    (d.receiveDetail id result).state.organizations.map (d.receiveDetail id result).state.rowView =
        d.organizations.map d.rowView ∧
      (d.receiveDetail id result).state.view = d.view := by
  obtain ⟨os, selected, visible, pending, hstate⟩ := d.receiveDetail_eq id result
  rw [hstate] at h ⊢
  have htexts : os.map d.rowView = d.organizations.map d.rowView := by
    have hmap := congrArg (List.map d.rowView) h
    simpa only [List.map_map, Function.comp_def, rowView_outline] using hmap
  refine ⟨htexts, ?_⟩
  simp only [view, map_rowView_rows]
  rw [← htexts]
  rfl

/-- An organization that is found takes in its details. -/
theorem organization?_receiveDetail {d : Directory} {id : OrganizationId} {o : Organization}
    (ho : d.organization? id = some o) (detail : OrganizationDetail) :
    (d.receiveDetail id (.ok detail)).state.organization? id = some (o.mergeDetail detail) := by
  rw [organization?_eq_getElem?] at ho ⊢
  rw [receiveDetail_organizations, map_id_updateFirst, getElem?_updateFirst, if_pos rfl, ho]
  rfl

/-- Activating an organization whose details are known shows its popup and asks for nothing, also
after whatever else has happened. -/
theorem activate_run_shows {d : Directory} {id : OrganizationId} {o : Organization}
    (ho : d.organization? id = some o) (h : o.hasDetail = true) (ops : List Operation) :
    ((d.run ops).activate id).requests = [] ∧ ((d.run ops).activate id).state.Shows id := by
  have hmem : id ∈ (d.run ops).organizations.map Organization.id := by
    rw [map_id_run]
    exact mem_ids_iff.mpr ⟨o, ho⟩
  rw [organization?_eq_getElem?] at ho
  obtain ⟨later, hlater, hdetail⟩ := hasDetail_run ho h ops
  rw [← d.map_id_run ops, ← organization?_eq_getElem?] at hlater
  simp only [activate, hlater, if_pos hdetail]
  exact ⟨rfl, rfl, rfl, rfl, hmem⟩

end Directory

namespace Store

variable {s : Store}

/-! ## The list and the details -/

/-- Details that have been answered for say what the list says, and the address and the kind. -/
structure Completes (detail : OrganizationDetail) (o : Organization) : Prop where
  outline : (o.mergeDetail detail).outline = o.outline
  url : detail.url.isSome = true
  kind : detail.kind.isSome = true

/-- With such details any organization has its details. -/
theorem Completes.hasDetail {detail : OrganizationDetail} {o : Organization}
    (h : Completes detail o) (held : Organization) : (held.mergeDetail detail).hasDetail = true := by
  simp [Organization.hasDetail, Organization.mergeDetail, h.url, h.kind]

/-- Only the outline of an organization decides which details complete it. -/
theorem completes_outline {detail : OrganizationDetail} {o : Organization} :
    Completes detail o.outline ↔ Completes detail o :=
  ⟨fun h => ⟨h.outline, h.url, h.kind⟩, fun h => ⟨h.outline, h.url, h.kind⟩⟩

/-- The list tells nothing but outlines. -/
theorem outline_of_mem_list {o : Organization} (h : o ∈ s.list) : o.outline = o := by
  obtain ⟨r, -, index, -, rfl⟩ := exists_rated_of_mem_list h
  rfl

/-- The store answers for the details of every listed organization, by details that complete it. -/
theorem exists_completes_of_mem_list (h : s.Consistent) {o : Organization} (ho : o ∈ s.list) :
    ∃ detail, s.source.detail o.id = .ok detail ∧ Completes detail o := by
  obtain ⟨r, hr, index, -, rfl⟩ := exists_rated_of_mem_list ho
  have hshown : s.shown? r.row.number = some r.row :=
    (shown?_eq_some_iff h).mpr ⟨(mem_rated.mp hr).1, rfl⟩
  simp only [source, detail?, Rated.organization, hshown, Option.map_some]
  exact ⟨_, rfl, rfl, rfl, rfl⟩

/-- The details that the store answers complete every listed organization of that id. -/
theorem completes_of_detail (h : s.Consistent) {o : Organization} (ho : o ∈ s.list)
    {detail : OrganizationDetail} (hdetail : s.source.detail o.id = .ok detail) :
    Completes detail o := by
  obtain ⟨answered, hanswered, hcompletes⟩ := exists_completes_of_mem_list h ho
  obtain rfl := Except.ok.inj (hdetail.symm.trans hanswered)
  exact hcompletes

/-! ## Directories that are fed by the store -/

/-- Whether an operation brings no other details than the store answers. -/
def Answers (s : Store) : Directory.Operation → Prop
  | .receiveDetail id (.ok detail) => s.source.detail id = .ok detail
  | _ => True

/-- A directory holds the outlines of the list, and lists those that pass its filter. -/
structure Feeds (s : Store) (d : Directory) : Prop where
  outlines : d.organizations.map Organization.outline = s.list
  listed : d.listed = d.filter.apply d.organizations

/-- A directory that has just been opened on the list is fed by the store. -/
theorem feeds_ofList (s : Store) (pageSize : PageSize) (page : Option String) :
    s.Feeds (.ofList s.list pageSize page) where
  outlines := List.map_congr_left (fun _ ho => outline_of_mem_list ho) |>.trans (List.map_id _)
  listed := (Filter.apply_none s.list).symm

/-- Filters list the same of two lists with the same outlines. -/
theorem apply_eq_of_outlines (f : Filter) {as bs : List Organization}
    (h : as.map Organization.outline = bs.map Organization.outline) : f.apply as = f.apply bs := by
  refine f.indicesFrom_congr 0 ?_
  have hmap := congrArg (List.map f.keeps) h
  simpa only [List.map_map, Function.comp_def, Filter.keeps_outline] using hmap

/-- Details that the store answers leave the outlines of a directory that it feeds. -/
theorem Feeds.outlines_receiveDetail (h : s.Consistent) {d : Directory} (hd : s.Feeds d)
    {id : OrganizationId} {detail : OrganizationDetail} (hdetail : s.source.detail id = .ok detail) :
    (d.receiveDetail id (.ok detail)).state.organizations.map Organization.outline =
      d.organizations.map Organization.outline := by
  rw [Directory.receiveDetail_organizations]
  refine Directory.map_updateFirst fun o ho hid => ?_
  subst hid
  have hlisted : o.outline ∈ s.list := hd.outlines ▸ List.mem_map_of_mem ho
  exact (completes_outline.mp (completes_of_detail h hlisted hdetail)).outline

/-- An operation that brings no other details leaves the outlines. -/
theorem Feeds.outlines_perform (h : s.Consistent) {d : Directory} (hd : s.Feeds d)
    {op : Directory.Operation} (hop : s.Answers op) :
    (d.perform op).state.organizations.map Organization.outline =
      d.organizations.map Organization.outline := by
  rw [Directory.perform_organizations]
  split
  · rename_i id detail
    rw [← hd.outlines_receiveDetail h hop, Directory.receiveDetail_organizations]
  · rfl

/-- A directory that is fed by the store stays so, whatever happens to it. -/
theorem Feeds.perform (h : s.Consistent) {d : Directory} (hd : s.Feeds d)
    {op : Directory.Operation} (hop : s.Answers op) : s.Feeds (d.perform op).state where
  outlines := (hd.outlines_perform h hop).trans hd.outlines
  listed := by
    cases hderives : op.derives with
    | true => exact (d.listsAsOf_of_derives hderives).listed
    | false =>
      obtain ⟨hfilter, hlisted⟩ := d.perform_of_not_derives hderives
      rw [hfilter, hlisted, hd.listed]
      exact (apply_eq_of_outlines d.filter (hd.outlines_perform h hop)).symm

/-- A directory that is fed by the store stays so after any run. -/
theorem Feeds.run (h : s.Consistent) {d : Directory} (hd : s.Feeds d)
    {ops : List Directory.Operation} (hops : ∀ op ∈ ops, s.Answers op) : s.Feeds (d.run ops) := by
  induction ops generalizing d with
  | nil => exact hd
  | cons op rest ih =>
    exact ih (hd.perform h (hops op List.mem_cons_self))
      fun op' hop' => hops op' (List.mem_cons_of_mem op hop')

/-- A directory that is fed by the store finds every listed organization. -/
theorem Feeds.exists_organization? {d : Directory} (hd : s.Feeds d) {o : Organization}
    (ho : o ∈ s.list) : ∃ held, d.organization? o.id = some held := by
  rw [← Directory.mem_ids_iff]
  rw [← hd.outlines] at ho
  obtain ⟨held, hheld, rfl⟩ := List.mem_map.mp ho
  exact List.mem_map.mpr ⟨held, hheld, rfl⟩

/-- After any run of an empty store it answers for the details of every organization that it lists.
Merged into the organization they change nothing that the list tells, and its details are known. In
every directory that was opened on the list and has taken in no other details than the store
answers, whatever its filter, these details change neither what is listed, which is what passes the
filter, nor any text of the table; and whenever the organization is activated next, its popup is
shown and nothing is asked for. -/
theorem detail_agrees_run (ops : List Operation) :
    let s := empty.run ops
    ∀ o ∈ s.list, ∃ detail,
      let merged := o.mergeDetail detail
      s.source.answer (.detail o.id) = .detail o.id (.ok detail) ∧
        (merged.id = o.id ∧ merged.name = o.name ∧ merged.ranking = o.ranking ∧
          merged.averageScore = o.averageScore ∧ merged.fundingRound = o.fundingRound ∧
          merged.rtoPolicy = o.rtoPolicy ∧ merged.completeness = o.completeness ∧
          merged.acceleratedVesting = o.acceleratedVesting ∧ merged.scores = o.scores ∧
          merged.hasDetail = true) ∧
        ∀ pageSize page earlier, (∀ op ∈ earlier, s.Answers op) →
          let d := (Directory.ofList s.list pageSize page).run earlier
          let received := (d.receiveDetail o.id (.ok detail)).state
          received.filter = d.filter ∧
            received.listed = received.filter.apply received.organizations ∧
            received.organizations.map received.rowView = d.organizations.map d.rowView ∧
            received.view = d.view ∧
            ∀ later, ((received.run later).activate o.id).requests = [] ∧
              ((received.run later).activate o.id).state.Shows o.id := by
  intro s o ho
  have h : s.Consistent := consistent_run ops
  obtain ⟨detail, hanswered, hcompletes⟩ := exists_completes_of_mem_list h ho
  have hmerged : (o.mergeDetail detail).outline = o :=
    hcompletes.outline.trans (outline_of_mem_list ho)
  refine ⟨detail, ?_, ?_, ?_⟩
  · simp only [Source.answer, hanswered]
    rfl
  · exact ⟨congrArg (·.id) hmerged, congrArg (·.name) hmerged, congrArg (·.ranking) hmerged,
      congrArg (·.averageScore) hmerged, congrArg (·.fundingRound) hmerged,
      congrArg (·.rtoPolicy) hmerged, congrArg (·.completeness) hmerged,
      congrArg (·.acceleratedVesting) hmerged, congrArg (·.scores) hmerged,
      hcompletes.hasDetail o⟩
  · intro pageSize page earlier hearlier d received
    have hd : s.Feeds d := (s.feeds_ofList pageSize page).run h hearlier
    have hanswers : s.Answers (.receiveDetail o.id (.ok detail)) := hanswered
    have hkeeps : (Directory.Operation.receiveDetail o.id (.ok detail)).derives = false := rfl
    have hreceived : s.Feeds received := hd.perform h hanswers
    obtain ⟨htexts, hview⟩ := Directory.view_receiveDetail (hd.outlines_receiveDetail h hanswered)
    obtain ⟨held, hheld⟩ := hd.exists_organization? ho
    refine ⟨(d.perform_of_not_derives hkeeps).1, hreceived.listed, htexts, hview, fun later => ?_⟩
    exact Directory.activate_run_shows (Directory.organization?_receiveDetail hheld detail)
      (hcompletes.hasDetail held) later

/-- One organization is listed and another one is hidden. The details of the former arrive while a
filter is set, and are not asked for once the popup has been closed. -/
theorem detail_agrees_beside_hidden :
    let acme : StoredOrganization :=
      ⟨"Acme", "Startup", "", true, false, "SEED", "REMOTE", true, 80.0, 1⟩
    let s := empty.run
      [.addOrganization acme, .addOrganization { acme with name := "Zenith" }, .setStatus 2 0]
    ∃ o ∈ s.list, o.id = 1 ∧ ∃ detail, s.source.answer (.detail 1) = .detail 1 (.ok detail) ∧
      let d := (Directory.ofList s.list .standard none).run
        [.setVesting true, .search "ac", .activate 1]
      let received := (d.receiveDetail 1 (.ok detail)).state
      received.listed = received.filter.apply received.organizations ∧
        received.view = d.view ∧ ((received.run [.closePopup]).activate 1).requests = [] := by
  intro acme s
  have hshown : ∃ row ∈ s.shown, (row.number : Int) = 1 := by decide +kernel
  obtain ⟨o, ho, hid⟩ := List.mem_map.mp ((s.mem_list_iff 1).mpr hshown)
  obtain ⟨detail, hanswer, -, hfed⟩ := detail_agrees_run
    [.addOrganization acme, .addOrganization { acme with name := "Zenith" }, .setStatus 2 0] o ho
  obtain ⟨-, hlisted, -, hview, hlater⟩ := hfed .standard none
    [.setVesting true, .search "ac", .activate 1] (by simp [Answers])
  rw [hid] at hanswer hlisted hview hlater
  exact ⟨o, ho, hid, detail, hanswer, hlisted, hview, (hlater [.closePopup]).1⟩

end Store

end Roster
