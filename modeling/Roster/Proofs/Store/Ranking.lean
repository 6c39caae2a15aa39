import Mathlib.Data.List.Sort
import Mathlib.Data.List.TFAE
import Roster.Proofs.Decimal.Average
import Roster.Proofs.Decimal.Order
import Roster.Proofs.Store.Run
import Roster.Proofs.Text.OctetOrder
import Roster.Store.Source

/-!
# What the store lists

Five questions are asked of a store: which organizations it lists, how many there are, whether it has
one, and what the details and the scores of one are. After every run the answers agree on which
organizations exist: those with the status of one that is shown. The scores that are answered are
averages over the rows of scores that were added.
-/

namespace Roster.Store

/-! ## Values of scores -/

/-- The values of the scores of an organization. -/
def values (s : Store) (id : OrganizationId) : List Float :=
  (s.scores.rows.filter fun row => row.value.organization = id).map fun row => row.value.value

/-- The values of the scores of an organization that are of one kind. -/
def valuesOfKind (s : Store) (id : OrganizationId) (kind : ScoreKindId) : List Float :=
  (s.scores.rows.filter fun row => row.value.organization = id ∧ row.value.kind = kind).map
    fun row => row.value.value

variable {s : Store}

theorem map_value_scoresOf (s : Store) (id : OrganizationId) :
    (s.scoresOf id).map StoredScore.value = s.values id := by
  rw [scoresOf, List.filter_map, List.map_map]
  rfl

theorem map_value_filter_scoresOf (s : Store) (id : OrganizationId) (kind : ScoreKindId) :
    ((s.scoresOf id).filter fun score => score.kind == kind).map StoredScore.value =
      s.valuesOfKind id kind := by
  rw [scoresOf, List.filter_map, List.filter_map, List.filter_filter, List.map_map, valuesOfKind]
  congr 2
  funext row
  simp [Bool.and_comm, Bool.beq_eq_decide_eq]

/-- The mean score of an organization is the average of its values. -/
theorem meanOf_eq (s : Store) (id : OrganizationId) :
    s.meanOf id = Decimal.average (s.values id) := by
  rw [meanOf, map_value_scoresOf, Decimal.mean?_eq]
  cases hnone : (s.values id).isEmpty with
  | true => rw [Decimal.average, hnone, if_pos rfl, if_pos rfl, Option.getD_none]
  | false => rfl

/-- An organization has no values when no score refers to it. -/
theorem values_eq_nil {id : OrganizationId}
    (h : ∀ row ∈ s.scores.rows, row.value.organization ≠ id) : s.values id = [] := by
  simpa [values] using h

/-- An organization has values of a kind when a score refers to both. -/
theorem valuesOfKind_ne_nil_iff {id : OrganizationId} {kind : ScoreKindId} :
    s.valuesOfKind id kind ≠ [] ↔
      ∃ row ∈ s.scores.rows, row.value.organization = id ∧ row.value.kind = kind := by
  simp [valuesOfKind]

/-! ## Organizations that are shown -/

theorem mem_shown {row : Numbered StoredOrganization} :
    row ∈ s.shown ↔ row ∈ s.organizations.rows ∧ row.value.status = shownStatus := by
  simp [shown]

/-- A number finds the organization that is shown under it. -/
theorem shown?_eq_some_iff (h : s.Consistent) {id : OrganizationId}
    {row : Numbered StoredOrganization} :
    s.shown? id = some row ↔ row ∈ s.shown ∧ (row.number : Int) = id := by
  rw [shown?, Option.filter_eq_some_iff, h.organizations.row?_eq_some_iff, mem_shown, beq_iff_eq]
  exact and_right_comm

/-- A store has the organizations that are shown. -/
theorem has_iff (h : s.Consistent) (id : OrganizationId) :
    s.has id = true ↔ ∃ row ∈ s.shown, (row.number : Int) = id := by
  simp only [has, Option.isSome_iff_exists, shown?_eq_some_iff h]

/-- The names of the organizations that are shown differ. -/
theorem nodup_shown_name (h : s.Consistent) :
    (s.shown.map fun row => row.value.name).Nodup :=
  h.names.sublist (List.filter_sublist.map _)

/-- The numbers of the organizations that are shown differ. -/
theorem nodup_shown_number (h : s.Consistent) :
    (s.shown.map fun row => (row.number : Int)).Nodup := by
  have hrising : (s.shown.map Numbered.number).Pairwise (· < ·) :=
    h.organizations.rising.sublist (List.filter_sublist.map _)
  refine List.pairwise_map.mpr ((List.pairwise_map.mp hrising).imp fun hlt heq => ?_)
  exact Nat.ne_of_lt hlt (Int.ofNat_inj.mp heq)

/-! ## The list -/

/-- The listed organizations in the order of the list, each with its mean score. -/
theorem rated_perm (s : Store) :
    s.rated.Perm (s.shown.map fun row => ⟨row, s.meanOf row.number⟩) :=
  List.mergeSort_perm _ _

theorem mem_rated {r : Rated} : r ∈ s.rated ↔ r.row ∈ s.shown ∧ r.average = s.meanOf r.row.number := by
  rw [s.rated_perm.mem_iff, List.mem_map]
  constructor
  · rintro ⟨row, hrow, rfl⟩
    exact ⟨hrow, rfl⟩
  · rintro ⟨hrow, haverage⟩
    exact ⟨r.row, hrow, by rw [← haverage]⟩

/-- Every rated organization is listed. -/
theorem length_list_eq_length_rated (s : Store) : s.list.length = s.rated.length := by
  simp [list]

/-- The listed organizations stand where the rated ones do. -/
theorem map_list {α : Type} (s : Store) (f : Organization → α) (g : Rated → α)
    (h : ∀ r ranking, f (Rated.organization r ranking) = g r) : s.list.map f = s.rated.map g := by
  rw [list, List.map_map]
  conv_rhs => rw [← List.zipIdx_map_fst 0 s.rated, List.map_map]
  exact List.map_congr_left fun r _ => h r.1 _

/-- The ranks count the list. -/
theorem map_ranking_list (s : Store) :
    s.list.map Organization.ranking = (List.range s.list.length).map fun i : Nat => (i : Int) + 1 := by
  rw [length_list_eq_length_rated, List.range_eq_range', ← List.zipIdx_map_snd 0 s.rated, list, List.map_map,
    List.map_map]
  rfl

/-- Every listed organization is one of the rated ones at its rank. -/
theorem exists_rated_of_mem_list {o : Organization} (h : o ∈ s.list) :
    ∃ r ∈ s.rated, ∃ index < s.list.length, o = r.organization (index + 1) := by
  rw [length_list_eq_length_rated]
  rw [list, List.mem_map] at h
  obtain ⟨⟨r, index⟩, hr, rfl⟩ := h
  exact ⟨r, List.fst_mem_of_mem_zipIdx hr, index, List.snd_lt_of_mem_zipIdx hr, rfl⟩

/-- Every listed organization is shown, and has its mean score. -/
theorem exists_row_of_mem_list {o : Organization} (h : o ∈ s.list) :
    ∃ row ∈ s.shown, o.id = row.number ∧ o.name = row.value.name ∧
      o.averageScore = s.meanOf row.number := by
  obtain ⟨r, hr, index, -, rfl⟩ := exists_rated_of_mem_list h
  obtain ⟨hrow, haverage⟩ := mem_rated.mp hr
  exact ⟨r.row, hrow, rfl, rfl, haverage⟩

/-- The list has the organizations that are shown, each of them once. -/
theorem map_id_list_perm (s : Store) :
    (s.list.map Organization.id).Perm (s.shown.map fun row => (row.number : Int)) := by
  rw [s.map_list Organization.id (fun r => r.row.number) fun r ranking => rfl]
  have hperm := s.rated_perm.map fun r => (r.row.number : Int)
  rwa [List.map_map] at hperm

/-- An organization is listed when it is shown. -/
theorem mem_list_iff (s : Store) (id : OrganizationId) :
    id ∈ s.list.map Organization.id ↔ ∃ row ∈ s.shown, (row.number : Int) = id := by
  rw [s.map_id_list_perm.mem_iff, List.mem_map]

/-! ## The order of the list -/

/-- The place of an organization in the list: by its mean score downwards, then by its name. -/
def Rated.place (r : Rated) : (ℤ ×ₗ ℤ ×ₗ ℤ)ᵒᵈ ×ₗ String :=
  toLex (OrderDual.toDual (Decimal.placeOf r.average), r.row.value.name)

/-- Of two finite means the places decide which organization stands first. -/
theorem Rated.notAfter_eq {a b : Rated} (ha : a.average.isFinite = true)
    (hb : b.average.isFinite = true) : a.notAfter b = decide (a.place ≤ b.place) := by
  rw [Bool.eq_iff_iff, decide_eq_true_iff, notAfter, Bool.or_eq_true, Bool.and_eq_true,
    decide_eq_true_iff, decide_eq_true_iff, Decimal.lt_iff_placeOf_lt hb ha,
    Decimal.beq_iff_placeOf_eq ha hb, Prod.Lex.le_iff]
  exact Iff.rfl

/-- With finite means the rated organizations stand in the order of their places. -/
theorem pairwise_rated (hfinite : ∀ row ∈ s.shown, (s.meanOf row.number).isFinite = true) :
    s.rated.Pairwise fun a b => a.place ≤ b.place := by
  have haverage : ∀ r ∈ s.shown.map fun row => (⟨row, s.meanOf row.number⟩ : Rated),
      r.average.isFinite = true := by
    intro r hr
    obtain ⟨row, hrow, rfl⟩ := List.mem_map.mp hr
    exact hfinite row hrow
  have hsort := List.map_mergeSort (r := Rated.notAfter) (f := id)
    (s := fun a b : Rated => decide (a.place ≤ b.place))
    fun a ha b hb => Rated.notAfter_eq (haverage a ha) (haverage b hb)
  rw [List.map_id, List.map_id] at hsort
  rw [rated, hsort]
  exact List.pairwise_mergeSort' (fun a b : Rated => a.place ≤ b.place) _

/-- Whether one organization stands before another one in a list by scores: it has the greater score,
or an equal one and a name with the lower octets. -/
def Precedes (a b : Organization) : Prop :=
  b.averageScore < a.averageScore ∨
    (a.averageScore == b.averageScore) = true ∧
      Text.toOctets a.name.toList < Text.toOctets b.name.toList

/-- With finite means the list stands in the order of scores and names. -/
theorem pairwise_list (h : s.Consistent)
    (hfinite : ∀ row ∈ s.shown, (s.meanOf row.number).isFinite = true) :
    s.list.Pairwise Precedes := by
  have hnames : (s.rated.map fun r => r.row.value.name).Nodup := by
    have hperm := s.rated_perm.map fun r => r.row.value.name
    rw [List.map_map] at hperm
    exact hperm.nodup_iff.mpr (nodup_shown_name h)
  have hstrict : s.rated.Pairwise fun a b => a.place < b.place :=
    (pairwise_rated hfinite).imp₂
      (fun a b hle hne => lt_of_le_of_ne hle fun heq => hne (congrArg (fun p => (ofLex p).2) heq))
      (List.pairwise_map.mp hnames)
  -- The ranks play no part in the order.
  have hrated : s.rated.Pairwise fun a b => Precedes (a.organization 0) (b.organization 0) := by
    refine hstrict.imp_of_mem fun {a b} ha hb hlt => ?_
    obtain ⟨hrow, haverage⟩ := mem_rated.mp ha
    obtain ⟨hrow', haverage'⟩ := mem_rated.mp hb
    have hfa : a.average.isFinite = true := haverage ▸ hfinite _ hrow
    have hfb : b.average.isFinite = true := haverage' ▸ hfinite _ hrow'
    rcases Prod.Lex.lt_iff.mp hlt with hscore | ⟨hscore, hname⟩
    · exact .inl ((Decimal.lt_iff_placeOf_lt hfb hfa).mpr hscore)
    · exact .inr ⟨(Decimal.beq_iff_placeOf_eq hfa hfb).mpr hscore,
        Text.toOctets_lt (String.lt_iff_toList_lt.mp hname)⟩
  rw [← List.zipIdx_map_fst 0 s.rated, List.pairwise_map] at hrated
  rw [list, List.pairwise_map]
  exact hrated

/-! ## The scores of an organization -/

/-- The mean of a kind is listed when there are values of it. -/
theorem meanOfKind_eq_some_iff {id : OrganizationId} {kind : Numbered String} {score : Score} :
    s.meanOfKind id kind = some score ↔ kind.value = score.kind ∧
      s.valuesOfKind id kind.number ≠ [] ∧
        score.average = Decimal.average (s.valuesOfKind id kind.number) := by
  rw [meanOfKind, map_value_filter_scoresOf, Decimal.mean?_eq, Option.map_eq_some_iff]
  cases hnone : (s.valuesOfKind id kind.number).isEmpty with
  | true => simp [List.isEmpty_iff.mp hnone]
  | false =>
    have hne : s.valuesOfKind id kind.number ≠ [] := List.isEmpty_eq_false_iff.mp hnone
    rw [if_neg Bool.false_ne_true, and_iff_right hne]
    constructor
    · rintro ⟨average, haverage, rfl⟩
      exact ⟨rfl, (Option.some.inj haverage).symm⟩
    · rintro ⟨hkind, haverage⟩
      exact ⟨score.average, congrArg some haverage.symm, by rw [hkind]⟩

/-- The scores of an organization are the averages of the kinds that it has values of. -/
theorem mem_meanScores {id : OrganizationId} {score : Score} :
    score ∈ s.meanScores id ↔ ∃ kind ∈ s.kinds.rows, kind.value = score.kind ∧
      s.valuesOfKind id kind.number ≠ [] ∧
        score.average = Decimal.average (s.valuesOfKind id kind.number) := by
  simp only [meanScores, List.mem_filterMap, List.mem_mergeSort, meanOfKind_eq_some_iff]

/-- The names of the kinds that an organization has scores of. -/
theorem mem_map_kind_meanScores (s : Store) (id : OrganizationId) (name : String) :
    name ∈ (s.meanScores id).map Score.kind ↔
      ∃ row ∈ s.scores.rows, row.value.organization = id ∧ ∃ kind ∈ s.kinds.rows,
        (kind.number : Int) = row.value.kind ∧ kind.value = name := by
  rw [List.mem_map]
  constructor
  · rintro ⟨score, hscore, rfl⟩
    obtain ⟨kind, hkind, hname, hvalues, -⟩ := mem_meanScores.mp hscore
    obtain ⟨row, hrow, hid, hnumber⟩ := valuesOfKind_ne_nil_iff.mp hvalues
    exact ⟨row, hrow, hid, kind, hkind, hnumber.symm, hname⟩
  · rintro ⟨row, hrow, hid, kind, hkind, hnumber, rfl⟩
    have hvalues := valuesOfKind_ne_nil_iff.mpr ⟨row, hrow, hid, hnumber.symm⟩
    exact ⟨⟨kind.value, _⟩, mem_meanScores.mpr ⟨kind, hkind, rfl, hvalues, rfl⟩, rfl⟩

/-- The scores of an organization stand in the order of the names of their kinds, each kind once. -/
theorem pairwise_meanScores (h : s.Consistent) (id : OrganizationId) :
    (s.meanScores id).Pairwise fun a b =>
      Text.toOctets a.kind.toList < Text.toOctets b.kind.toList := by
  have hsorted := List.pairwise_mergeSort' (fun a b : String => a ≤ b)
    (s.kinds.rows.map Numbered.value)
  rw [← List.map_mergeSort (r := fun a b : Numbered String => decide (a.value ≤ b.value))
    fun a _ b _ => rfl, List.pairwise_map] at hsorted
  have hdistinct : (s.kinds.rows.mergeSort fun a b => a.value ≤ b.value).Pairwise
      fun a b => a.value ≠ b.value :=
    List.pairwise_map.mp
      (((List.mergeSort_perm _ _).map Numbered.value).nodup_iff.mpr h.kindNames)
  refine (hsorted.imp₂ (fun a b hle hne => lt_of_le_of_ne hle hne) hdistinct).filterMap
    (s.meanOfKind id) ?_
  intro kind kind' hlt a ha b hb
  rw [← (meanOfKind_eq_some_iff.mp ha).1, ← (meanOfKind_eq_some_iff.mp hb).1]
  exact Text.toOctets_lt (String.lt_iff_toList_lt.mp hlt)

/-! ## What the store answers -/

/-- The details of an organization are answered when it is shown. -/
theorem exists_detail_iff (s : Store) (id : OrganizationId) :
    (∃ detail, s.source.detail id = .ok detail) ↔ s.has id = true := by
  simp only [source, detail?, has]
  cases s.shown? id <;> simp

/-- The scores of an organization are answered when it is shown. -/
theorem exists_scores_iff (s : Store) (id : OrganizationId) :
    (∃ scores, s.source.scores id = .ok scores) ↔ s.has id = true := by
  simp only [source]
  cases s.has id <;> simp

/-- Nothing is answered about an organization that is not shown. -/
theorem not_found_of_not_has {id : OrganizationId} (h : s.has id = false) :
    s.source.detail id = .error (.notFound id) ∧ s.source.scores id = .error (.notFound id) := by
  have hshown : s.shown? id = none := by simpa [has] using h
  simp [source, detail?, hshown, h]

/-- After any run of an empty store the list has exactly the organizations that are shown, each of
them once, ranked from one on. Each has the average of the values of all its scores, and zero without
scores; with finite averages the list stands in their order downwards and, where those are equal, in
the order of the octets of the names. It is as long as the count says. An organization is listed
exactly when the store has it, answers for its details and answers for its scores; otherwise neither
is found. The scores have one row for each kind that the organization has scores of, with the average
of their values, in the order of the octets of their names. -/
theorem list_run (ops : List Operation) :
    let s := empty.run ops
    (s.list.map Organization.id).Nodup ∧
      (∀ id, id ∈ s.list.map Organization.id ↔
        ∃ row ∈ s.organizations.rows, (row.number : Int) = id ∧ row.value.status = 1) ∧
      s.list.map Organization.ranking =
        (List.range s.list.length).map (fun i : Nat => (i : Int) + 1) ∧
      (∀ o ∈ s.list, o.averageScore = Decimal.average (s.values o.id) ∧
        ((∀ row ∈ s.scores.rows, row.value.organization ≠ o.id) → o.averageScore = 0.0)) ∧
      ((∀ o ∈ s.list, o.averageScore.isFinite = true) → s.list.Pairwise Precedes) ∧
      s.count = s.list.length ∧
      (∀ id, [id ∈ s.list.map Organization.id, s.has id = true,
        ∃ detail, s.source.detail id = .ok detail,
        ∃ scores, s.source.scores id = .ok scores].TFAE) ∧
      (∀ id, s.has id = false →
        s.source.detail id = .error (.notFound id) ∧
          s.source.scores id = .error (.notFound id)) ∧
      ∀ id scores, s.source.scores id = .ok scores →
        (scores.Pairwise fun a b =>
          Text.toOctets a.kind.toList < Text.toOctets b.kind.toList) ∧
        (∀ name, name ∈ scores.map Score.kind ↔
          ∃ row ∈ s.scores.rows, row.value.organization = id ∧ ∃ kind ∈ s.kinds.rows,
            (kind.number : Int) = row.value.kind ∧ kind.value = name) ∧
        ∀ score, score ∈ scores ↔ ∃ kind ∈ s.kinds.rows, kind.value = score.kind ∧
          s.valuesOfKind id kind.number ≠ [] ∧
            score.average = Decimal.average (s.valuesOfKind id kind.number) := by
  intro s
  have h : s.Consistent := consistent_run ops
  have haverage : ∀ o ∈ s.list, o.averageScore = s.meanOf o.id := by
    intro o ho
    obtain ⟨row, -, hid, -, hmean⟩ := exists_row_of_mem_list ho
    rw [hmean, hid]
  refine ⟨s.map_id_list_perm.nodup_iff.mpr (nodup_shown_number h), fun id => ?_,
    s.map_ranking_list, fun o ho => ?_, fun hfinite => ?_,
    s.length_list.symm, fun id => ?_, fun id => not_found_of_not_has, fun id scores hscores => ?_⟩
  · simp only [mem_list_iff, mem_shown, shownStatus, and_assoc, and_comm]
  · rw [haverage o ho, meanOf_eq]
    refine ⟨rfl, fun hnone => ?_⟩
    rw [values_eq_nil hnone]
    rfl
  · refine pairwise_list h fun row hrow => ?_
    obtain ⟨o, ho, hid⟩ := List.mem_map.mp ((s.mem_list_iff row.number).mpr ⟨row, hrow, rfl⟩)
    rw [← hid, ← haverage o ho]
    exact hfinite o ho
  · apply List.tfae_of_forall (s.has id = true)
    simp only [List.forall_mem_cons, List.not_mem_nil, false_implies, implies_true, and_true]
    exact ⟨(s.mem_list_iff id).trans (has_iff h id).symm, trivial, s.exists_detail_iff id,
      s.exists_scores_iff id⟩
  · obtain rfl : s.meanScores id = scores := by
      simp only [source] at hscores
      split at hscores
      · exact Except.ok.inj hscores
      · cases hscores
    exact ⟨pairwise_meanScores h id, s.mem_map_kind_meanScores id, fun score => mem_meanScores⟩

/-- Two organizations have the average 4.5, one by a single score and one by two, and a third one is
hidden: the list is in order and counts two, and nothing is found of the third. -/
theorem list_run_tied :
    let beta : StoredOrganization :=
      ⟨"Beta", "Startup", "", true, false, "SEED", "REMOTE", true, 80.0, 1⟩
    let ops : List Operation :=
      [.addOrganization beta, .addOrganization { beta with name := "Alpha" },
        .addOrganization { beta with name := "Gamma" }, .ensureKind "Pay", .addScore ⟨1, 1, 4.5⟩,
        .addScore ⟨2, 1, 4.0⟩, .addScore ⟨2, 1, 5.0⟩, .setStatus 3 0]
    let s := empty.run ops
    s.list.Pairwise Precedes ∧ s.list.map Organization.ranking = [1, 2] ∧
      (∀ o ∈ s.list, o.averageScore = 4.5) ∧ s.has 3 = false ∧
      s.source.detail 3 = .error (.notFound 3) ∧ s.source.scores 3 = .error (.notFound 3) := by
  intro beta ops s
  have haverages : ∀ row ∈ s.organizations.rows, row.value.status = 1 →
      Decimal.average (s.values row.number) = 4.5 := by decide +kernel
  have hhidden : s.has 3 = false := by decide +kernel
  have hcounted : s.count = 2 := by decide +kernel
  -- From here on the operations are not looked into.
  clear_value ops
  obtain ⟨-, hlisted, hranks, haverage, horder, hcount, -, hmissing, -⟩ := list_run ops
  have htied : ∀ o ∈ s.list, o.averageScore = 4.5 := by
    intro o ho
    obtain ⟨row, hrow, hid, hstatus⟩ := (hlisted o.id).mp (List.mem_map_of_mem ho)
    rw [(haverage o ho).1, ← hid]
    exact haverages row hrow hstatus
  have hfinite : ∀ o ∈ s.list, o.averageScore.isFinite = true := by
    intro o ho
    rw [htied o ho]
    decide +kernel
  refine ⟨horder hfinite, ?_, htied, hhidden, hmissing 3 hhidden⟩
  change s.list.map Organization.ranking = _ at hranks
  rw [hranks, ← show s.count = s.list.length from hcount, hcounted]
  rfl

end Roster.Store
