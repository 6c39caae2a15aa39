import Mathlib.Logic.Relation
import Roster.Proofs.Store.Numbering
import Roster.Store.Demo

/-!
# The integrity of the store

There are five things that a write can do to a store, and whatever is done to a store is a sequence
of them; a write that is refused does nothing. Each of the five keeps names apart, gives a new row a
new number, and lets a score refer only to what is there, so all sequences do.
-/

namespace Roster.Store

/-! ## Writes -/

/-- One write: it adds an organization under a new name, a kind under a new name or a score of what
is there, uses up the number of a kind, or changes a status. -/
inductive Write (s : Store) : Store → Prop
  | organization (o : StoredOrganization)
      (hname : ∀ row ∈ s.organizations.rows, row.value.name ≠ o.name) :
      Write s { s with organizations := s.organizations.add o }
  | kind (name : String) (hname : ∀ row ∈ s.kinds.rows, row.value ≠ name) :
      Write s { s with kinds := s.kinds.add name }
  | skippedKind : Write s { s with kinds := s.kinds.skip }
  | score (score : StoredScore) (horganization : s.organizations.has score.organization = true)
      (hkind : s.kinds.has score.kind = true) :
      Write s { s with scores := s.scores.add score }
  | status (id : OrganizationId) (status : Int) :
      Write s
        { s with organizations := s.organizations.change id fun o => { o with status := status } }

/-- What is left after writes, one after the other. -/
abbrev Writes : Store → Store → Prop :=
  Relation.ReflTransGen Write

/-- An organization that is not refused is added under a new name, and answered by its number. -/
theorem write_of_addOrganization {s s' : Store} {o : StoredOrganization} {id : OrganizationId}
    (h : s.addOrganization o = .ok (s', id)) : s.Write s' := by
  obtain ⟨-, hname, rfl, -⟩ := addOrganization_eq_ok_iff.mp h
  exact .organization _ hname

/-- Seeing to it that a kind exists adds it or uses up its number. -/
theorem write_ensureKind (s : Store) (name : String) : s.Write (s.ensureKind name).1 := by
  unfold ensureKind
  split
  · exact .skippedKind
  · rename_i hnone
    exact .kind name (by simpa using hnone)

/-- A score that is not refused refers to what is there. -/
theorem write_of_addScore {s s' : Store} {score : StoredScore} (h : s.addScore score = .ok s') :
    s.Write s' := by
  obtain ⟨-, horganization, hkind, rfl⟩ := addScore_eq_ok_iff.mp h
  exact .score _ horganization hkind

/-- Seeing to it that kinds exist takes one write for each of them. -/
theorem writes_ensureKinds (s : Store) (names : List String) : Writes s (s.ensureKinds names).1 := by
  induction names generalizing s with
  | nil => exact .refl
  | cons name rest ih => exact .head (s.write_ensureKind name) (ih _)

/-- Scores are added until one is refused. -/
theorem writes_addScores (s : Store) (id : OrganizationId) (scores : List (ScoreKindId × Float)) :
    Writes s (s.addScores id scores).1 := by
  induction scores generalizing s with
  | nil => exact .refl
  | cons score rest ih =>
    simp only [addScores]
    split
    · exact .refl
    · rename_i hadd
      exact .head (write_of_addScore hadd) (ih _)

/-- Organizations are added with their scores until one is refused. -/
theorem writes_addDemos (s : Store) (kinds : List ScoreKindId) (demos : List Demo) :
    Writes s (s.addDemos kinds demos).1 := by
  induction demos generalizing s with
  | nil => exact .refl
  | cons demo rest ih =>
    simp only [addDemos]
    split
    · exact .refl
    · rename_i added id hadd
      have hscores := added.writes_addScores id (kinds.zip demo.scores)
      split
      · rename_i hrefused
        rw [hrefused] at hscores
        exact .head (write_of_addOrganization hadd) hscores
      · rename_i hscored
        rw [hscored] at hscores
        exact .head (write_of_addOrganization hadd) (hscores.trans (ih _))

/-- Filling a store is a sequence of writes, even when one of them is refused. -/
theorem writes_seed (s : Store) : Writes s s.seed.1 := by
  unfold seed
  split
  · exact .refl
  · exact (s.writes_ensureKinds demoKinds).trans (writes_addDemos _ _ demos)

/-! ## What writes keep -/

/-- The registers are in order, names are given once, and scores refer to what is there. -/
structure Consistent (s : Store) : Prop where
  organizations : s.organizations.Ordered
  kinds : s.kinds.Ordered
  scores : s.scores.Ordered
  names : (s.organizations.rows.map fun row => row.value.name).Nodup
  kindNames : (s.kinds.rows.map Numbered.value).Nodup
  scoredOrganization : ∀ row ∈ s.scores.rows, s.organizations.has row.value.organization = true
  scoredKind : ∀ row ∈ s.scores.rows, s.kinds.has row.value.kind = true

/-- Nothing is wrong with an empty store. -/
theorem consistent_empty : empty.Consistent where
  organizations := .empty
  kinds := .empty
  scores := .empty
  names := List.nodup_nil
  kindNames := List.nodup_nil
  scoredOrganization _ hrow := absurd hrow List.not_mem_nil
  scoredKind _ hrow := absurd hrow List.not_mem_nil

/-- A further name that differs from all others keeps names apart. -/
theorem nodup_map_add {α β : Type} {t : Register α} (name : Numbered α → β) (value : α)
    (h : (t.rows.map name).Nodup) (hnew : ∀ row ∈ t.rows, name row ≠ name ⟨t.next, value⟩) :
    ((t.add value).rows.map name).Nodup := by
  simp only [Register.add, List.map_append, List.map_cons, List.map_nil]
  refine List.nodup_append.mpr ⟨h, by simp, fun a ha b hb => ?_⟩
  obtain ⟨row, hrow, rfl⟩ := List.mem_map.mp ha
  rw [List.mem_singleton.mp hb]
  exact hnew row hrow

/-- A change of statuses changes no name. -/
theorem map_name_change (t : Register StoredOrganization) (id : OrganizationId) (status : Int) :
    ((t.change id fun o => { o with status := status }).rows.map fun row => row.value.name) =
      t.rows.map fun row => row.value.name := by
  simp only [Register.change, List.map_map]
  refine List.map_congr_left fun row _ => ?_
  simp only [Function.comp_apply]
  split <;> rfl

/-- Every write keeps a store consistent. -/
theorem Consistent.write {s s' : Store} (h : s.Consistent) (hwrite : s.Write s') :
    s'.Consistent := by
  cases hwrite with
  | organization o hname =>
    exact
      { h with
        organizations := h.organizations.add o
        names := nodup_map_add (fun row : Numbered StoredOrganization => row.value.name) o h.names
          hname
        scoredOrganization := fun row hrow =>
          (Register.Grows.add _ o).has (h.scoredOrganization row hrow) }
  | kind name hname =>
    exact
      { h with
        kinds := h.kinds.add name
        kindNames := nodup_map_add Numbered.value name h.kindNames hname
        scoredKind := fun row hrow => (Register.Grows.add _ name).has (h.scoredKind row hrow) }
  | skippedKind => exact { h with kinds := h.kinds.skip }
  | score score horganization hkind =>
    have hrows : ∀ row ∈ (s.scores.add score).rows, row ∈ s.scores.rows ∨ row.value = score := by
      intro row hrow
      rcases List.mem_append.mp hrow with hrow | hrow
      · exact .inl hrow
      · exact .inr (by rw [List.mem_singleton.mp hrow])
    exact
      { h with
        scores := h.scores.add score
        scoredOrganization := fun row hrow =>
          (hrows row hrow).elim (h.scoredOrganization row) fun hscore => hscore ▸ horganization
        scoredKind := fun row hrow =>
          (hrows row hrow).elim (h.scoredKind row) fun hscore => hscore ▸ hkind }
  | status id status =>
    exact
      { h with
        organizations := h.organizations.change id fun o => { o with status := status }
        names := by
          rw [map_name_change]
          exact h.names
        scoredOrganization := fun row hrow =>
          (Register.Grows.change _ id fun o => { o with status := status }).has
            (h.scoredOrganization row hrow) }

/-- Writes keep a store consistent. -/
theorem Consistent.writes {s s' : Store} (h : s.Consistent) (hwrites : s.Writes s') :
    s'.Consistent := by
  induction hwrites with
  | refl => exact h
  | tail _ hwrite ih => exact ih.write hwrite

/-! ## What writes add -/

/-- Writes leave every row its number and give further ones new numbers; the kinds stay what they
are, and further kinds come behind them. -/
structure Grows (s s' : Store) : Prop where
  organizations : s.organizations.Grows s'.organizations
  kinds : s.kinds.Grows s'.kinds
  scores : s.scores.Grows s'.scores
  keptKinds : s.kinds.rows <+: s'.kinds.rows

theorem Grows.refl (s : Store) : s.Grows s :=
  ⟨.refl _, .refl _, .refl _, List.prefix_rfl⟩

theorem Grows.trans {s s' s'' : Store} (h : s.Grows s') (h' : s'.Grows s'') : s.Grows s'' where
  organizations := h.organizations.trans h'.organizations
  kinds := h.kinds.trans h'.kinds
  scores := h.scores.trans h'.scores
  keptKinds := h.keptKinds.trans h'.keptKinds

/-- Every write makes a store grow. -/
theorem Write.grows {s s' : Store} (h : s.Write s') : s.Grows s' := by
  cases h with
  | organization o _ => exact { Grows.refl s with organizations := .add _ o }
  | kind name _ =>
    exact { Grows.refl s with kinds := .add _ name, keptKinds := List.prefix_append _ _ }
  | skippedKind => exact { Grows.refl s with kinds := .skip _ }
  | score score _ _ => exact { Grows.refl s with scores := .add _ score }
  | status id status =>
    exact
      { Grows.refl s with
        organizations := .change s.organizations id fun o => { o with status := status } }

/-- Writes make a store grow. -/
theorem grows_of_writes {s s' : Store} (h : s.Writes s') : s.Grows s' := by
  induction h with
  | refl => exact .refl s
  | tail _ hwrite ih => exact ih.trans hwrite.grows

/-- The number that is answered for a kind is that of the row with its name. -/
theorem exists_row_ensureKind (s : Store) (name : String) :
    ∃ row ∈ (s.ensureKind name).1.kinds.rows,
      row.value = name ∧ (row.number : Int) = (s.ensureKind name).2 := by
  unfold ensureKind
  split
  · rename_i row hrow
    exact ⟨row, List.mem_of_find?_eq_some hrow, by simpa using List.find?_some hrow, rfl⟩
  · exact ⟨⟨s.kinds.next, name⟩, by simp [Register.add], rfl, rfl⟩

/-- Whatever is written in between, two names are answered by one number only if they are one. -/
theorem ensureKind_eq_iff {s later : Store} {name name' : String} (h : s.Consistent)
    (hwrites : Writes (s.ensureKind name).1 later) :
    (later.ensureKind name').2 = (s.ensureKind name).2 ↔ name' = name := by
  have hlater : (s.ensureKind name).1.Writes (later.ensureKind name').1 :=
    hwrites.tail (later.write_ensureKind name')
  have hconsistent := (h.write (s.write_ensureKind name)).writes hlater
  obtain ⟨row, hrow, hvalue, hnumber⟩ := s.exists_row_ensureKind name
  obtain ⟨row', hrow', hvalue', hnumber'⟩ := later.exists_row_ensureKind name'
  have hkept := (grows_of_writes hlater).keptKinds.subset hrow
  rw [← hnumber, ← hnumber', ← hvalue, ← hvalue', Int.ofNat_inj]
  constructor
  · intro heq
    rw [hconsistent.kinds.eq_of_number_eq hrow' hkept heq]
  · intro heq
    rw [List.inj_on_of_nodup_map hconsistent.kindNames hrow' hkept heq]

end Roster.Store
