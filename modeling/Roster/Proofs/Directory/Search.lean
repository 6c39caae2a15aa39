import Roster.Proofs.Directory.Listing
import Roster.Proofs.Text.Lowercase

/-!
# Searching for a part of a name

A name is searched in lower case for the lower case of the term. A name that contains the term as it
is typed is found as long as the capital sigmas of the term end words in the name where they end
words in the term. That can be relied on for every name exactly when the term is steady; the first
letters of a name need not be.
-/

namespace Roster

/-- A text occurs in another one when it is a part of it. -/
theorem Organization.occurs_iff_infix {part whole : List Char} :
    occurs part whole = true ↔ part <:+: whole := by
  induction whole with
  | nil => simp [occurs]
  | cons c rest ih =>
    rw [occurs, Bool.or_eq_true, ih, List.isPrefixOf_iff_prefix, List.infix_cons_iff]

namespace Filter

/-- An organization is kept when it has accelerated vesting, should that be asked for, and its name
in lower case contains the lower case of the term. -/
theorem keeps_iff (f : Filter) (o : Organization) :
    f.keeps o = true ↔ (f.vestingOnly = true → o.acceleratedVesting = true) ∧
      Text.lower f.term.toList <:+: Text.lower o.name.toList := by
  have hvesting : (!f.vestingOnly || o.acceleratedVesting) = true ↔
      (f.vestingOnly = true → o.acceleratedVesting = true) := by
    cases f.vestingOnly <;> simp
  have hterm : (f.needle.isEmpty || o.matchesSearch f.needle) = true ↔
      Text.lower f.term.toList <:+: Text.lower o.name.toList := by
    rw [Bool.or_eq_true, Organization.matchesSearch, Organization.occurs_iff_infix, needle,
      List.isEmpty_iff, or_iff_right_iff_imp]
    intro hempty
    rw [hempty]
    exact List.nil_infix
  rw [keeps, Bool.and_eq_true, hvesting, hterm]

/-- A term finds an organization when a search for it lists the organization, wherever it stands in
whatever list, and also among those with accelerated vesting if it has that. -/
def Finds (term : String) (o : Organization) : Prop :=
  ∀ (vestingOnly : Bool) (organizations : List Organization) (index : Nat),
    organizations[index]? = some o → (vestingOnly = true → o.acceleratedVesting = true) →
      index ∈ (Filter.mk vestingOnly term).apply organizations

/-- A term finds the organizations whose names contain it in lower case. -/
theorem finds_iff (term : String) (o : Organization) :
    Finds term o ↔ Text.lower term.toList <:+: Text.lower o.name.toList := by
  constructor
  · intro hfinds
    obtain ⟨_, ⟨⟩, hkeeps⟩ := (mem_apply _ 0 [o]).mp (hfinds false [o] 0 rfl nofun)
    exact ((keeps_iff _ o).mp hkeeps).2
  · intro hinfix vestingOnly organizations index hindex hvesting
    exact (mem_apply _ index organizations).mpr ⟨o, hindex, (keeps_iff _ o).mpr ⟨hvesting, hinfix⟩⟩

/-- A term finds every organization whose name contains it at a place where the capital sigmas of
the term end words in the name exactly when they do in the term alone. It finds all organizations
whose names contain it exactly when it is steady, that is, when the term settles each of its capital
sigmas; a term that has none is steady. -/
theorem finds_literal_iff (term : String) :
    (∀ (o : Organization) (before after : List Char),
        o.name.toList = before ++ term.toList ++ after →
          Text.wordEnds before.reverse term.toList after = Text.wordEnds [] term.toList [] →
            Finds term o) ∧
      ((∀ o : Organization, term.toList <:+: o.name.toList → Finds term o) ↔
        Text.Steady term.toList) ∧
      ('Σ' ∉ term.toList → Text.Steady term.toList) := by
  refine ⟨fun o before after hname hends => ?_, ?_, Text.steady_of_not_mem⟩
  · have halike : Text.lowerWithin before.reverse term.toList after = Text.lower term.toList := by
      rw [Text.lower, ← Text.lowerWithin_nil, Text.lowerWithin_eq_iff]
      exact hends
    rw [finds_iff, hname, ← halike]
    exact Text.lowerWithin_infix before term.toList after
  · rw [← Text.infix_lower_iff_steady]
    constructor
    · intro hfinds text hpart
      have hname := (finds_iff term { Organization.bare 0 with name := String.ofList text }).mp
        (hfinds _ (by simpa using hpart))
      simpa using hname
    · intro hsteady o hpart
      exact (finds_iff term o).mpr (hsteady _ hpart)

/-- A sigma that ends the term ends a word there, and none in the name that begins with the term:
the name is not found. -/
theorem apply_beginning_of_name :
    let o := { Organization.bare 1 with name := "ΟΔΥΣΣΕΥΣ" }
    "ΟΔΥΣ".toList <+: o.name.toList ∧ (Filter.mk false "ΟΔΥΣ").apply [o] = [] ∧
      (Filter.mk false "ΟΔΥ").apply [o] = [0] := by
  decide +kernel

end Filter

end Roster
