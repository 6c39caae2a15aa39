import Mathlib.Data.List.Nodup
import Roster.Proofs.Terminal.Phase
import Roster.Proofs.Terminal.Rows

/-!
# Clicks on the table

A click is taken for a row by its line alone: the lines of the table are counted from its header on,
and from the first row that is shown. Drawing counts them in the same way, so a click on the line of
a row that is drawn activates the organization of that row, and a click on any other line of the
table activates nothing. On a screen of at most two columns the border leaves no room for rows; there
clicks go by the lines of rows that are not drawn.
-/

namespace Roster.Terminal

open Roster.Screen

namespace Layout

/-! ## Lines of the table -/

/-- The table stands below the controls and the page buttons. -/
theorem holds_of_table {a : Area} {x y : Nat} (h : (Layout.of a).table.holds x y = true) :
    (Layout.of a).search.holds x y = false ∧ (Layout.of a).vesting.holds x y = false ∧
      (Layout.of a).pagination.holds x y = false := by
  have hline : a.y + (heights a.height).1 + (heights a.height).2.1 ≤ y := by
    simp only [Layout.of, Area.holds, Bool.and_eq_true] at h
    exact of_decide_eq_true h.1.2
  have habove : ∀ edge, edge ≤ y → ¬y < Nat.min edge last := fun edge hedge hlt =>
    absurd (Nat.lt_of_lt_of_le hlt (Nat.min_le_left _ _)) (Nat.not_lt.mpr hedge)
  have hcontrols := habove (a.y + (heights a.height).1) (by omega)
  have hpages := habove _ hline
  simp [Layout.of, Area.holds, Area.bottom, hcontrols, hpages]

end Layout

namespace Session

variable {s : Session} {screen : Area} {x y index : Nat}

/-- What comes of activating an organization: its popup is shown at once if its details are known, and
asks for its scores at most; otherwise its details are asked for and nothing else, and no popup is
shown yet. -/
def Activates (step : Step Session) (o : Organization) : Prop :=
  if o.hasDetail then
    step.state.directory.popupVisible = true ∧
      step.state.directory.selectedOrganization = some o ∧ step.state.directory.pending = none ∧
        step.requests ⊆ [.scores o.id]
  else
    step.state.directory.popupVisible = false ∧ step.state.directory.pending = some o.id ∧
      step.requests = [.detail o.id]

/-- Activating an organization that is found under its id activates it, and leaves the cursor where
it is. -/
theorem activates_of_organization? {s : Session} {o : Organization}
    (hfound : s.directory.organization? o.id = some o) (hhidden : s.directory.popupVisible = false) :
    Activates (s.activate o.id) o ∧ (s.activate o.id).state.row = s.row := by
  cases hdetail : o.hasDetail with
  | true =>
    have hactivate := Directory.activate_of_known hfound hdetail
    have hsilent : (s.directory.activate o.id).requests = [] := by
      rw [hactivate]
      rfl
    obtain ⟨hrequests, hstate⟩ := activate_of_silent hsilent
    have hselected : (s.directory.activate o.id).state.selectedOrganization = some o := by
      rw [hactivate]
      exact hfound
    rw [Activates, hdetail, if_pos rfl, hrequests, hstate]
    refine ⟨⟨?_, hselected, ?_, requests_syncPopup_subset hselected⟩, rfl⟩
    · change (s.directory.activate o.id).state.popupVisible = true
      rw [hactivate]
      rfl
    · change (s.directory.activate o.id).state.pending = none
      rw [hactivate]
      rfl
  | false =>
    have hactivate := Directory.activate_of_unknown hfound hdetail
    have hasking : (s.directory.activate o.id).requests = [.detail o.id] := by rw [hactivate]
    obtain ⟨hrequests, hstate⟩ := activate_of_asking hasking
    rw [Activates, hdetail, if_neg Bool.false_ne_true, hrequests, hstate, hactivate]
    exact ⟨⟨hhidden, rfl, rfl⟩, rfl⟩

/-- With different ids, an organization of the page is found under its own id. -/
theorem organization?_of_mem_rows {d : Directory} {o : Organization}
    (hids : (d.organizations.map Organization.id).Nodup) (h : o ∈ d.rows) :
    d.organization? o.id = some o := by
  obtain ⟨found, hfound⟩ := Option.isSome_iff_exists.mp
    (organization?_isSome_of_mem (mem_organizations_of_mem_rows h))
  have hid := Directory.id_of_organization? hfound
  rw [hfound, List.inj_on_of_nodup_map hids (List.mem_of_find?_eq_some hfound)
    (mem_organizations_of_mem_rows h) hid]

/-- Activating an organization changes no organization. -/
theorem activate_organizations (s : Session) (id : OrganizationId) :
    (s.activate id).state.directory.organizations = s.directory.organizations := by
  simp only [activate]
  split <;> exact s.directory.activate_organizations id

/-- A turn changes no organization. -/
theorem Turn.organizations {s : Session} {activated : Option OrganizationId} {step : Step Session}
    (hturn : s.Turn activated step) :
    step.state.directory.organizations = s.directory.organizations := by
  cases hturn with
  | quiet alike => exact alike.organizations
  | shutdown hidden => rfl
  | activation alike hidden listed => rw [activate_organizations, alike.organizations]
  | @dismissal gesture shown dismissed =>
    change (s.dismiss gesture).directory.organizations = _
    unfold dismiss
    split <;> rfl

/-- Whatever happens to a session, the organizations keep their ids. -/
theorem map_id_on (s : Session) (e : Event) :
    (s.on e).state.directory.organizations.map Organization.id =
      s.directory.organizations.map Organization.id := by
  cases e with
  | key key => exact congrArg _ (s.turn_key key).organizations
  | mouse action screen x y => exact congrArg _ (s.turn_mouse action screen x y).organizations
  | answer n answer =>
    cases answer with
    | fundingRounds result => exact s.directory.map_id_perform (.receiveFundingRounds result)
    | rtoPolicies result => exact s.directory.map_id_perform (.receiveRtoPolicies result)
    | detail id result =>
      rw [on, (s.receive_detail id result).2]
      exact s.directory.map_id_perform (.receiveDetail id result)
    | scores id result => rfl

end Session

namespace Dialogue

end Dialogue

end Roster.Terminal
