import Roster.Payload
import Roster.Proofs.Json.Numbers
import Roster.Proofs.Json.Records
import Roster.Proofs.Store.Offline

/-!
# Organizations read back from documents

What is written of organizations and of their details is read back as it was, whichever of the
optional fields are known: those of an organization are left out while unknown, those of details are
written as nulls, and an empty list of scores stays one. So a page that brings along the list of a
store shows that list.
-/

namespace Roster

open Json.Reader

/-! ## Nulls -/

/-- Whether a document is a null. -/
def Json.isNull : Json → Bool
  | .null => true
  | _ => false

/-- An optional value is a null when it is absent. -/
theorem Json.isNull_ofOption {α : Type} {encode : α → Json} (h : ∀ a, (encode a).isNull = false)
    (value : Option α) : (ofOption encode value).isNull = value.isNone := by
  cases value with
  | none => rfl
  | some a => exact h a

/-! ## Scores -/

namespace Score

/-- A score is read when its average is read back. -/
theorem reads_document {s : Score} (h : ReadsBack s.average) : Reads shape.read s.document s := by
  refine Json.RecordShape.reads_read ?_ (by simp) (List.Subset.refl _)
  exact .always rfl (reads_text s.kind).takes <| .always rfl (takes_double h) <| .nil _

/-- A list of scores is read when all averages are read back. -/
theorem reads_documents {scores : List Score} (h : ∀ s ∈ scores, ReadsBack s.average) :
    Reads listReader (documents scores) scores :=
  reads_listOf fun s hs => reads_document (h s hs)

end Score

/-! ## Organizations -/

namespace Organization

/-- The numbers of an organization can be written down: the whole ones have 64 bits, and the others
are read back from their texts. -/
structure Writable (o : Organization) : Prop where
  id : IsLong o.id
  ranking : IsLong o.ranking
  averageScore : ReadsBack o.averageScore
  completeness : ReadsBack o.completeness
  scores : ∀ scores ∈ o.scores, ∀ s ∈ scores, ReadsBack s.average

/-- The fields in writing lead from nothing to the organization. -/
theorem fills_fields {o : Organization} (h : o.Writable) : shape.Fills blank o.fields o := by
  simp only [fields, List.cons_append, List.nil_append, List.append_assoc]
  rw [← List.append_nil (knownField "avg_scores" Score.documents o.scores)]
  exact .always rfl (reads_signed h.id).takes <|
    .always rfl (reads_text o.name).takes <|
    .always rfl (reads_signed h.ranking).takes <|
    .always rfl (takes_double h.averageScore) <|
    .always rfl (reads_text o.fundingRound).takes <|
    .always rfl (reads_text o.rtoPolicy).takes <|
    .always rfl (takes_double h.completeness) <|
    .always rfl (reads_boolean o.acceleratedVesting).takes <|
    .knownField rfl rfl (fun url _ => reads_text url) <|
    .knownField rfl rfl (fun kind _ => reads_text kind) <|
    .knownField rfl rfl (fun givesRatings _ => reads_boolean givesRatings) <|
    .knownField rfl rfl (fun isPublic _ => reads_boolean isPublic) <|
    .knownField rfl rfl (fun scores hscores => Score.reads_documents (h.scores scores hscores)) <|
    .nil _

/-- A field that may be left out has its own name. -/
theorem map_fst_knownField_sublist {α : Type} (label : String) (encode : α → Json) (value : Option α) :
    ((knownField label encode value).map Prod.fst).Sublist [label] := by
  cases value with
  | none => exact List.nil_sublist _
  | some value => exact List.Sublist.refl _

/-- The fields in writing are fields of the shape, in their order. -/
theorem map_fst_fields_sublist (o : Organization) :
    (o.fields.map Prod.fst).Sublist (shape.fields.map Json.Field.label) := by
  simp only [fields, List.map_append]
  exact ((((List.Sublist.refl _).append (map_fst_knownField_sublist "url" _ _)).append
    (map_fst_knownField_sublist "type" _ _)).append
    (map_fst_knownField_sublist "gives_ratings" _ _)).append
    (map_fst_knownField_sublist "public" _ _) |>.append
    (map_fst_knownField_sublist "avg_scores" _ _)

/-- An organization whose numbers can be written down is read. -/
theorem reads_document {o : Organization} (h : o.Writable) : Reads shape.read o.document o := by
  refine Json.RecordShape.reads_read (fills_fields h) ?_ ?_
  · exact (show (shape.fields.map Json.Field.label).Nodup by decide).sublist o.map_fst_fields_sublist
  · intro label hlabel
    simp only [fields, List.map_append, List.append_assoc]
    exact List.mem_append_left _ hlabel

/-- A list of organizations whose numbers can be written down is read. -/
theorem reads_documents {os : List Organization} (h : ∀ o ∈ os, o.Writable) :
    Reads listReader (documents os) os :=
  reads_listOf fun o ho => reads_document (h o ho)

end Organization

/-! ## Details -/

namespace OrganizationDetail

/-- The numbers of details can be written down. -/
structure Writable (d : OrganizationDetail) : Prop where
  id : ∀ id ∈ d.id, IsLong id
  scores : ∀ scores ∈ d.scores, ∀ s ∈ scores, ReadsBack s.average

/-- The fields in writing lead from nothing to the details. -/
theorem fills_fields {d : OrganizationDetail} (h : d.Writable) : shape.Fills blank d.fields d :=
  .ofOption rfl (fun id hid => reads_signed (h.id id hid)) <|
    .ofOption rfl (fun name _ => reads_text name) <|
    .ofOption rfl (fun kind _ => reads_text kind) <|
    .ofOption rfl (fun url _ => reads_text url) <|
    .ofOption rfl (fun givesRatings _ => reads_boolean givesRatings) <|
    .ofOption rfl (fun isPublic _ => reads_boolean isPublic) <|
    .ofOption rfl (fun acceleratedVesting _ => reads_boolean acceleratedVesting) <|
    .ofOption rfl (fun fundingRound _ => reads_text fundingRound) <|
    .ofOption rfl (fun rtoPolicy _ => reads_text rtoPolicy) <|
    .ofOption rfl (fun scores hscores => Score.reads_documents (h.scores scores hscores)) <|
    .nil _

/-- All ten fields of details are written, and those are nulls that are absent. -/
theorem map_isNull_fields (d : OrganizationDetail) :
    d.fields.map (fun field => (field.1, field.2.isNull)) =
      [("id", d.id.isNone), ("name", d.name.isNone), ("type", d.kind.isNone),
        ("url", d.url.isNone), ("gives_ratings", d.givesRatings.isNone),
        ("public", d.isPublic.isNone), ("accelerated_vesting", d.acceleratedVesting.isNone),
        ("funding_round", d.fundingRound.isNone), ("rto_policy", d.rtoPolicy.isNone),
        ("avg_scores", d.scores.isNone)] := by
  simp only [fields, List.map_cons, List.map_nil,
    Json.isNull_ofOption (show ∀ i, (Json.integer i).isNull = false from fun _ => rfl),
    Json.isNull_ofOption (show ∀ s, (Json.text s).isNull = false from fun _ => rfl),
    Json.isNull_ofOption (show ∀ b, (Json.boolean b).isNull = false from fun _ => rfl),
    Json.isNull_ofOption (show ∀ s, (Score.documents s).isNull = false from fun _ => rfl)]

/-- Details whose numbers can be written down are read. -/
theorem reads_document {d : OrganizationDetail} (h : d.Writable) :
    Reads shape.read d.document d := by
  refine Json.RecordShape.reads_read (fills_fields h) ?_ (List.nil_subset _)
  simp [fields]

end OrganizationDetail

/-! ## Lists that are brought along -/

namespace Payload

/-- The document of a list is not empty. -/
theorem isEmpty_encode (os : List Organization) : (encode os).isEmpty = false := by
  simp [encode, Json.compact, Organization.documents, Json.written]

/-- A list whose numbers can be written down is the one that is shown. -/
theorem mount_encode {os : List Organization} (h : ∀ o ∈ os, o.Writable) (container : Bool) :
    mount (some (encode os)) container = .silent (if container then some os else none) := by
  have hparse : parse (encode os) = .ok os := (Organization.reads_documents h).takes.whole
  simp only [mount, isEmpty_encode, hparse]
  rfl

end Payload

namespace Store

variable {s : Store}

/-- The numbers of the organizations that a store lists can be written down, as long as the numbers
that it has given out have 64 bits. -/
theorem writable_of_mem_list (h : s.Consistent) (hlast : s.organizations.last < 0x8000000000000000)
    {o : Organization} (ho : o ∈ s.list) (haverage : ReadsBack o.averageScore)
    (hcompleteness : ReadsBack o.completeness) : o.Writable := by
  obtain ⟨r, hr, index, hindex, rfl⟩ := exists_rated_of_mem_list ho
  have hnumber : r.row.number ≤ s.organizations.last :=
    h.organizations.wellNumbered _ (mem_shown.mp (mem_rated.mp hr).1).1
  have hcount : s.list.length ≤ s.organizations.last := by
    rw [s.length_list]
    exact Nat.le_trans (List.length_filter_le _ _) h.organizations.length_le
  refine ⟨?_, ?_, haverage, hcompleteness, fun _ hscores => nomatch hscores⟩
  · simp only [Rated.organization, IsLong]
    omega
  · simp only [Rated.organization, IsLong]
    omega

/-- No details are known of a listed organization. -/
theorem hasDetail_of_mem_list {o : Organization} (h : o ∈ s.list) : o.hasDetail = false := by
  obtain ⟨r, -, index, -, rfl⟩ := exists_rated_of_mem_list h
  rfl

end Store

namespace Payload

/-- A list of organizations is read back from its document as it was, if its whole numbers have 64
bits and its doubles are read back from their texts, and details are read back from theirs, in which
exactly the absent fields are nulls. So after any run of an empty store that has given out numbers of
64 bits, a page that brings along what the store answers shows the list of the store, in its order,
and no details are known of any organization. -/
theorem round_trip :
    (∀ os : List Organization, (∀ o ∈ os, o.Writable) → parse (encode os) = .ok os) ∧
      (∀ d : OrganizationDetail, d.Writable →
        OrganizationDetail.shape.read.whole d.document.compact = .ok d) ∧
      (∀ d : OrganizationDetail, ∃ fields, d.document = .record fields ∧
        fields.map (fun field => (field.1, field.2.isNull)) =
          [("id", d.id.isNone), ("name", d.name.isNone), ("type", d.kind.isNone),
            ("url", d.url.isNone), ("gives_ratings", d.givesRatings.isNone),
            ("public", d.isPublic.isNone), ("accelerated_vesting", d.acceleratedVesting.isNone),
            ("funding_round", d.fundingRound.isNone), ("rto_policy", d.rtoPolicy.isNone),
            ("avg_scores", d.scores.isNone)]) ∧
      ∀ ops : List Store.Operation,
        let s := Store.empty.run ops
        s.organizations.last < 0x8000000000000000 →
          (∀ o ∈ s.list, ReadsBack o.averageScore ∧ ReadsBack o.completeness) →
            (∃ payload, s.source.payload = .ok payload ∧ ∀ container,
              mount payload container = .silent (if container then some s.list else none)) ∧
            ∀ o ∈ s.list, o.hasDetail = false := by
  refine ⟨fun os h => (Organization.reads_documents h).takes.whole,
    fun d h => (OrganizationDetail.reads_document h).takes.whole,
    fun d => ⟨d.fields, rfl, d.map_isNull_fields⟩, ?_⟩
  intro ops s hlast hreals
  have hwritable : ∀ o ∈ s.list, o.Writable := fun o ho =>
    Store.writable_of_mem_list (Store.consistent_run ops) hlast ho (hreals o ho).1 (hreals o ho).2
  exact ⟨⟨_, rfl, mount_encode hwritable⟩, fun o => Store.hasDetail_of_mem_list⟩

/-- A list of an organization of which little is known and one of which everything is, its scores
being none, details that are mostly absent, and the list of a store are read back. -/
theorem round_trip_extremes :
    let unknown : Organization :=
      ⟨-0x8000000000000000, "\"Ünï\" \\ 漢字\n\t", 0x7FFFFFFFFFFFFFFF, 13.0 / 3.0, "", "R", -0.0, true,
        none, none, none, none, none⟩
    let known : Organization :=
      ⟨0, "", -1, 4.5, "SEED", "", 80.0, false, some "", some "Startup", some true, some false,
        some []⟩
    let detail : OrganizationDetail :=
      { OrganizationDetail.blank with id := some 7, scores := some [⟨"Pay", 0.1⟩] }
    let s := Store.empty.run
      [.addOrganization ⟨"Acme", "Startup", "", true, false, "SEED", "REMOTE", true, 80.0, 1⟩,
        .ensureKind "Pay", .addScore ⟨1, 1, 4.0⟩, .addScore ⟨1, 1, 5.0⟩]
    parse (encode [unknown, known]) = .ok [unknown, known] ∧
      OrganizationDetail.shape.read.whole detail.document.compact = .ok detail ∧
      ∃ payload, s.source.payload = .ok payload ∧ mount payload true = .silent (some s.list) := by
  intro unknown known detail s
  obtain ⟨hlist, hdetail, -, hstore⟩ := round_trip
  have hunknown : unknown.Writable :=
    ⟨by decide, by decide, by decide +kernel, by decide +kernel, fun _ h => nomatch h⟩
  have hknown : known.Writable := by
    refine ⟨by decide, by decide, by decide +kernel, by decide +kernel, ?_⟩
    rintro _ ⟨⟩ s hs
    exact absurd hs List.not_mem_nil
  have hwritable : detail.Writable := by
    refine ⟨?_, ?_⟩
    · rintro _ ⟨⟩
      decide
    · rintro _ ⟨⟩
      decide +kernel
  have hreals : ∀ row ∈ s.shown, ReadsBack (s.meanOf row.number) ∧
      ReadsBack row.value.completeness := by decide +kernel
  have hread : ∀ o ∈ s.list, ReadsBack o.averageScore ∧ ReadsBack o.completeness := by
    intro o ho
    obtain ⟨r, hr, index, -, rfl⟩ := Store.exists_rated_of_mem_list ho
    obtain ⟨hrow, haverage⟩ := Store.mem_rated.mp hr
    simp only [Store.Rated.organization, haverage]
    exact hreals r.row hrow
  refine ⟨hlist [unknown, known] (by simp [hunknown, hknown]), hdetail detail hwritable, ?_⟩
  obtain ⟨⟨payload, hpayload, hmount⟩, -⟩ := hstore _ (by decide +kernel) hread
  exact ⟨payload, hpayload, hmount true⟩

end Payload

end Roster
