import Mathlib.Tactic.SplitIfs
import Roster.Directory.Turning
import Roster.Proofs.Directory.Listing
import Roster.Proofs.Text.Digits

/-!
# Pages of the directory

The pages are numbered from one, and there are no more of them than organizations. A page number is
read from an address as it was written there. Which page a key leads to is said here without the
detours of its computation.
-/

namespace Roster

/-- No digit is blank. -/
theorem isBlank_of_isDigit {c : Char} (h : c.isDigit = true) : Text.isBlank c = false := by
  simp only [Char.isDigit, Bool.and_eq_true, decide_eq_true_eq] at h
  have hlow : 48 ≤ c.toNat := h.1
  have hhigh : c.toNat ≤ 57 := h.2
  simp [Text.isBlank]
  omega

namespace Page

/-! ## Numbers -/

/-- A page number is read as it is written. -/
theorem parse_toString {page : Nat} (hpos : 1 ≤ page) (hmax : page ≤ wordMax) :
    parse (some (toString page)) = page := by
  have hdigits : ∀ c ∈ Nat.toDigits 10 page, c.isDigit = true := fun _ => isDigit_of_mem_toDigits
  have hfirst {p : Char → Bool} (hp : ∀ c : Char, c.isDigit = true → p c = false) :
      (Nat.toDigits 10 page).dropWhile p = Nat.toDigits 10 page := by
    cases hcs : Nat.toDigits 10 page with
    | nil => rfl
    | cons c rest =>
      have hc : p c = false := hp c (hdigits c (by simp [hcs]))
      simp [hc]
  have hplus : ∀ c : Char, c.isDigit = true → (c == '+') = false := by
    rintro c hc
    simp only [beq_eq_false_iff_ne]
    rintro rfl
    exact absurd hc (by decide)
  simp only [parse, Text.dropLeading, Nat.toString_eq_repr, Nat.toList_repr,
    hfirst fun c => isBlank_of_isDigit, hfirst hplus, List.takeWhile_eq_self_iff.mpr hdigits,
    digitsValue_toDigits]
  simp [hpos, hmax]

/-- There are no more pages than rows. -/
theorem count_le (total : Nat) (size : PageSize) : count total size ≤ total := by
  obtain ⟨size, hsize⟩ := size
  simp only [count]
  cases total with
  | zero =>
    rw [Nat.div_eq_of_lt (by omega)]
  | succ n =>
    have hsum : n + 1 + size - 1 = n + size := by omega
    rw [hsum, Nat.add_div_right n hsize]
    exact Nat.succ_le_succ (Nat.div_le_self n size)

/-- Rows fill at least one page. -/
theorem count_pos {total : Nat} {size : PageSize} (h : 0 < total) : 0 < count total size :=
  Nat.div_pos (by omega) size.positive

/-- Pages are numbered from one to their count. -/
theorem mem_numbers {total : Nat} {size : PageSize} {page : Nat} :
    page ∈ numbers total size ↔ 1 ≤ page ∧ page ≤ count total size := by
  simp only [numbers, List.mem_map, List.mem_range]
  constructor
  · rintro ⟨index, hindex, rfl⟩
    omega
  · rintro ⟨hpos, hle⟩
    exact ⟨page - 1, by omega, by omega⟩

/-- There are as many numbers as pages. -/
theorem length_numbers (total : Nat) (size : PageSize) :
    (numbers total size).length = count total size := by
  simp [numbers]

/-! ## Where keys lead -/

/-- The page before has the number before, and from beyond the end it is the last one. -/
theorem previous?_eq_some_iff {current count page : Nat} (h : 1 ≤ current) :
    previous? current count = some page ↔
      1 < current ∧ current ≤ count ∧ page = current - 1 ∨
        0 < count ∧ count < current ∧ page = count := by
  simp only [previous?, Nat.min_def, Nat.max_def]
  split_ifs <;> simp <;> omega

/-- The page after has the number after. -/
theorem next?_eq_some_iff {current count page : Nat} :
    next? current count = some page ↔ current < count ∧ page = current + 1 := by
  simp only [next?]
  split_ifs <;> simp <;> omega

/-- A digit leads to the page of its number, if there is one. -/
theorem ofDigit?_eq_some_iff {c : Char} {count page : Nat} :
    ofDigit? c count = some page ↔
      ('1' ≤ c ∧ c ≤ '9') ∧ page = c.toNat - 0x30 ∧ page ≤ count := by
  have hrange : ('1' ≤ c ∧ c ≤ '9') ↔ 49 ≤ c.toNat ∧ c.toNat ≤ 57 := Iff.rfl
  have hdigit : c.isDigit = true ↔ 48 ≤ c.toNat ∧ c.toNat ≤ 57 := by
    simp only [Char.isDigit, Bool.and_eq_true, decide_eq_true_eq]
    exact Iff.rfl
  simp only [ofDigit?, hdigit, hrange, Bool.and_eq_true, decide_eq_true_eq]
  split_ifs <;> simp <;> omega

end Page

namespace Filter

/-- A filter keeps no more organizations than there are. -/
theorem length_indicesFrom_le (f : Filter) (first : Nat) (os : List Organization) :
    (f.indicesFrom first os).length ≤ os.length := by
  induction os generalizing first with
  | nil => exact Nat.le_refl 0
  | cons o rest ih =>
    have hrest := ih (first + 1)
    simp only [indicesFrom, List.length_cons]
    split
    · simp only [List.length_cons]
      omega
    · omega

end Filter

namespace Directory

/-! ## Runs -/

/-- Whatever happens to a directory, it lists no more than its organizations. -/
theorem length_listed_run_le (organizations : List Organization) (pageSize : PageSize)
    (page : Option String) (ops : List Operation) :
    ((ofList organizations pageSize page).run ops).listed.length ≤ organizations.length := by
  have hlisted := (listsAsOf_run organizations pageSize page ops).listed
  have hlength := length_organizations_run (ofList organizations pageSize page)
    (Operation.untilDerived ops)
  rw [hlisted]
  exact (Filter.length_indicesFrom_le _ _ _).trans hlength.le

/-- Whatever happens to a directory, it has no more pages than organizations. -/
theorem length_pageNumbers_run_le (organizations : List Organization) (pageSize : PageSize)
    (page : Option String) (ops : List Operation) :
    ((ofList organizations pageSize page).run ops).pageNumbers.length ≤ organizations.length := by
  rw [pageNumbers, Page.length_numbers]
  exact (Page.count_le _ _).trans (length_listed_run_le organizations pageSize page ops)

/-- The page that an operation turns to. -/
def Operation.page? : Operation → Option Nat
  | .turnTo page => some page
  | _ => none

/-- An operation changes the page only when it turns to one. -/
theorem perform_page (d : Directory) (op : Operation) :
    (d.perform op).state.page = op.page?.getD d.page := by
  cases op with
  | activate id =>
    obtain ⟨_, _, _, hactivate⟩ := d.activate_eq id
    rw [perform, hactivate]
    rfl
  | receiveFundingRounds result => cases result <;> rfl
  | receiveRtoPolicies result => cases result <;> rfl
  | receiveDetail id result =>
    obtain ⟨_, _, _, _, hreceive⟩ := d.receiveDetail_eq id result
    rw [perform, hreceive]
    rfl
  | _ => rfl

end Directory

end Roster
