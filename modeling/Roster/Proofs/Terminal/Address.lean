import Roster.Proofs.Terminal.Operations
import Roster.Proofs.Url.Form

/-!
# The page and the address bar

The address bar names the page that is shown, wherever the session began and whatever happened to
it. Selecting a page leads to one that has a button and leaves one address behind; nothing else
touches the address bar.
-/

namespace Roster.Terminal

open Directory (Operation pageParameter)

/-- A session of a list is addressed: its directory comes from operations on that of the list, and
its address bar names the page shown. -/
structure Session.Addressed (s : Session) (organizations : List Organization) : Prop where
  run : ∃ pageSize page ops, s.directory = (Directory.ofList organizations pageSize page).run ops
  named : s.directory.page = Page.parse (s.address.parameter? pageParameter)

namespace Session.Addressed

variable {s : Session} {organizations : List Organization}

/-- The page that is shown has a number. -/
theorem one_le_page (h : s.Addressed organizations) : 1 ≤ s.directory.page := by
  rw [h.named]
  exact Page.one_le_parse _

/-- There are no more page buttons than organizations. -/
theorem length_pageNumbers_le (h : s.Addressed organizations) :
    s.directory.pageNumbers.length ≤ organizations.length := by
  obtain ⟨pageSize, page, ops, hrun⟩ := h.run
  rw [hrun]
  exact Directory.length_pageNumbers_run_le organizations pageSize page ops

/-- An event that selects a page leads to it, and pushes it into the address bar. -/
theorem on_of_selects (h : s.Addressed organizations) {e : Event} {page : Nat}
    (hselects : s.Selects page e) :
    (s.on e).state.directory.page = page ∧ (s.on e).state.address = s.address.pushPage page := by
  obtain ⟨op, hperforms, hop⟩ := s.turning_on h.one_le_page e
  have hpage := (hop page).mpr hselects
  rw [hperforms.directory, Directory.run_toList_page, hperforms.address, hpage]
  exact ⟨rfl, rfl⟩

/-- An event that selects no page leaves the page and the address bar as they are. -/
theorem on_of_not_selects (h : s.Addressed organizations) {e : Event}
    (hselects : ∀ page, ¬s.Selects page e) :
    (s.on e).state.directory.page = s.directory.page ∧ (s.on e).state.address = s.address := by
  obtain ⟨op, hperforms, hop⟩ := s.turning_on h.one_le_page e
  have hpage : op.bind Operation.page? = none :=
    Option.eq_none_iff_forall_ne_some.mpr fun page hsome => hselects page ((hop page).mp hsome)
  rw [hperforms.directory, Directory.run_toList_page, hperforms.address, hpage]
  exact ⟨rfl, rfl⟩

/-- Whatever happens, the address bar goes on naming the page. A list is no longer than a word can
count, so every page that has a button is read from the address as it was written there. -/
theorem on (h : s.Addressed organizations) (hlength : organizations.length ≤ wordMax)
    (e : Event) : (s.on e).state.Addressed organizations := by
  constructor
  · obtain ⟨pageSize, page, ops, hrun⟩ := h.run
    obtain ⟨op, hperforms, -⟩ := s.turning_on h.one_le_page e
    refine ⟨pageSize, page, ops ++ op.toList, ?_⟩
    rw [hperforms.directory, hrun, Directory.run_append]
  · by_cases hselects : ∃ page, s.Selects page e
    · obtain ⟨page, hselects⟩ := hselects
      obtain ⟨hshown, haddress⟩ := h.on_of_selects hselects
      obtain ⟨hpos, hbutton⟩ := hselects.bounds
      have hword : page ≤ wordMax := (hbutton.trans h.length_pageNumbers_le).trans hlength
      rw [hshown, haddress, Url.History.pushPage, Url.History.parameter?_push,
        Page.parse_toString hpos hword]
    · obtain ⟨hshown, haddress⟩ := h.on_of_not_selects (not_exists.mp hselects)
      rw [hshown, haddress, h.named]

/-- Left leads from beyond the end to the last page. -/
theorem page_on_left (h : s.Addressed organizations) (mode : s.InDirectory)
    (hlisted : s.directory.listed ≠ [])
    (hbeyond : s.directory.pageNumbers.length < s.directory.page) :
    (s.on (.key .left)).state.directory.page = s.directory.pageNumbers.length := by
  have hsome : 0 < s.directory.pageNumbers.length := by
    rw [Directory.pageNumbers, Page.length_numbers]
    exact Page.count_pos (List.length_pos_iff.mpr hlisted)
  exact (h.on_of_selects (e := .key .left) ⟨mode, .inr ⟨hsome, hbeyond, rfl⟩⟩).1

end Session.Addressed

namespace Dialogue

theorem addressed_opening (organizations : List Organization) (pageSize : PageSize)
    (address : Url) : (opening organizations pageSize address).session.Addressed organizations :=
  ⟨⟨pageSize, address.parameter? pageParameter, [], rfl⟩, rfl⟩

theorem addressed_after {organizations : List Organization} {d : Dialogue}
    (h : d.session.Addressed organizations) (hlength : organizations.length ≤ wordMax)
    (events : List Event) : (d.after events).session.Addressed organizations := by
  induction events generalizing d with
  | nil => exact h
  | cons e rest ih => exact ih (h.on hlength e)

/-- After any keys, clicks and answers the address bar names the page that is shown, so a session
started there shows it too. A key or a click that selects a page leads to one that has a button, and
leaves behind the address before, the same page included; everything else keeps the page and all
addresses. While something matches, Left leads from beyond the end to the last page. -/
theorem address_names_page_after (organizations : List Organization) (pageSize : PageSize)
    (address : Url) (events : List Event) (h : organizations.length ≤ wordMax) :
    let s := ((opening organizations pageSize address).after events).session
    1 ≤ s.directory.page ∧
      s.directory.page = Page.parse (s.address.parameter? pageParameter) ∧
      (∀ os size, (Session.start os size s.address.current).directory.page = s.directory.page) ∧
      (∀ e page, s.Selects page e →
        1 ≤ page ∧ page ≤ s.directory.pageNumbers.length ∧
          (s.on e).state.directory.page = page ∧
          (s.on e).state.address =
            ⟨s.address.current.setParameter pageParameter (toString page),
              s.address.current :: s.address.past⟩) ∧
      (∀ e, (∀ page, ¬s.Selects page e) →
        (s.on e).state.directory.page = s.directory.page ∧
          (s.on e).state.address = s.address) ∧
      (s.InDirectory → s.directory.listed ≠ [] →
        s.directory.pageNumbers.length < s.directory.page →
          (s.on (.key .left)).state.directory.page = s.directory.pageNumbers.length) := by
  intro s
  have hs : s.Addressed organizations :=
    addressed_after (addressed_opening organizations pageSize address) h events
  refine ⟨hs.one_le_page, hs.named, fun os size => hs.named.symm, fun e page hselects => ?_,
    fun e => hs.on_of_not_selects, hs.page_on_left⟩
  obtain ⟨hpos, hbutton⟩ := hselects.bounds
  obtain ⟨hshown, haddress⟩ := hs.on_of_selects hselects
  exact ⟨hpos, hbutton, hshown, haddress⟩

/-- An address can name a page beyond the end; the first of its names counts. -/
theorem page_on_left_of_one_page :
    let address := { Url.bare with query := some "page=5&page=2" }
    let s := (opening [Organization.bare 7] .standard address).session
    s.directory.page = 5 ∧ (s.on (.key .left)).state.directory.page = 1 := by
  obtain ⟨_, _, _, _, _, hlast⟩ := address_names_page_after [Organization.bare 7] .standard
    { Url.bare with query := some "page=5&page=2" } [] (by decide)
  exact ⟨by decide, hlast ⟨rfl, rfl, rfl⟩ (by decide) (by decide)⟩

end Dialogue

end Roster.Terminal
