import Roster.Proofs.Store.Run

/-!
# Filling a store

A store that shows nothing is filled organization by organization, each with its scores. The only
thing that can end this early is a name that some organization has, shown or not; what has been added
until then stays. So filling is all or nothing unless the first name that is taken stands behind one
that is not. After such a failure the store shows something, and filling it again adds nothing.
-/

namespace Roster

/-- A register with further rows, added one after the other. -/
def Register.addAll {α : Type} (t : Register α) (values : List α) : Register α :=
  values.foldl Register.add t

namespace Register

variable {α : Type}

@[simp] theorem addAll_nil (t : Register α) : t.addAll [] = t := rfl

@[simp] theorem addAll_cons (t : Register α) (value : α) (rest : List α) :
    t.addAll (value :: rest) = (t.add value).addAll rest := rfl

theorem addAll_append (t : Register α) (before after : List α) :
    t.addAll (before ++ after) = (t.addAll before).addAll after :=
  List.foldl_append

/-- The rows that were there stay in front. -/
theorem exists_rows_addAll (t : Register α) (values : List α) :
    ∃ added, (t.addAll values).rows = t.rows ++ added ∧ added.map Numbered.value = values := by
  induction values generalizing t with
  | nil => exact ⟨[], by simp⟩
  | cons value rest ih =>
    obtain ⟨added, hrows, hvalues⟩ := ih (t.add value)
    refine ⟨⟨t.next, value⟩ :: added, ?_, by simp [hvalues]⟩
    rw [addAll_cons, hrows]
    simp [Register.add]

/-- A row that has just been added is found by its number. -/
theorem has_add (t : Register α) (value : α) : (t.add value).has t.next = true :=
  has_iff.mpr ⟨t.next, by simp, rfl⟩

end Register

namespace Store

/-! ## What is added -/

/-- Whether some organization, shown or not, has the name of one to begin with. -/
def taken (s : Store) (demo : Demo) : Bool :=
  s.organizations.rows.any fun row => row.value.name == demo.name

/-- The organizations to begin with that come before the first one whose name is taken. -/
def addable (s : Store) (demos : List Demo) : List Demo :=
  demos.takeWhile fun demo => !s.taken demo

/-- The scores of an organization to begin with, under its number. -/
def Demo.storedScores (demo : Demo) (id : OrganizationId) (kinds : List ScoreKindId) :
    List StoredScore :=
  (kinds.zip demo.scores).map fun (kind, value) => ⟨id, kind, value⟩

/-- The scores of organizations to begin with that are numbered from `first` on. -/
def storedScoresFrom (kinds : List ScoreKindId) : Nat → List Demo → List StoredScore
  | _, [] => []
  | first, demo :: rest =>
    demo.storedScores first kinds ++ storedScoresFrom kinds (first + 1) rest

/-- The store with organizations to begin with, each with its scores. -/
def withDemos (s : Store) (kinds : List ScoreKindId) (demos : List Demo) : Store :=
  { s with
    organizations := s.organizations.addAll (demos.map Demo.organization)
    scores := s.scores.addAll (storedScoresFrom kinds s.organizations.next demos) }

/-- The numbers of an organization to begin with are kept as they are. -/
structure Demo.Sound (demo : Demo) : Prop where
  completeness : demo.completeness.isNaN = false ∧ (demo.completeness == 0.0) = false
  scores : ∀ value ∈ demo.scores, value.isNaN = false ∧ (value == 0.0) = false

/-- All organizations to begin with are sound. -/
theorem sound_of_mem_demos {demo : Demo} (h : demo ∈ demos) : demo.Sound := by
  have hall : ∀ demo ∈ demos,
      (demo.completeness.isNaN = false ∧ (demo.completeness == 0.0) = false) ∧
        ∀ value ∈ demo.scores, value.isNaN = false ∧ (value == 0.0) = false := by
    decide
  exact ⟨(hall demo h).1, (hall demo h).2⟩

/-- The organizations to begin with have different names. -/
theorem nodup_name_demos : (demos.map Demo.name).Nodup := by decide

/-- A number other than zero is kept as it is. -/
theorem kept_of_ne {x : Float} (h : (x == 0.0) = false) : kept x = x := by
  simp [kept, h]

/-! ## Adding one organization -/

/-- Scores of an organization that exists are added, all of them. -/
theorem addScores_eq {s : Store} {id : OrganizationId} {scores : List (ScoreKindId × Float)}
    (hid : s.organizations.has id = true)
    (hscores : ∀ score ∈ scores, s.kinds.has score.1 = true ∧ score.2.isNaN = false ∧
      (score.2 == 0.0) = false) :
    s.addScores id scores =
      ({ s with scores := s.scores.addAll (scores.map fun (kind, value) => ⟨id, kind, value⟩) },
        .ok ()) := by
  induction scores generalizing s with
  | nil => rfl
  | cons score rest ih =>
    obtain ⟨kind, value⟩ := score
    obtain ⟨hkind, hnumber, hzero⟩ : s.kinds.has kind = true ∧ value.isNaN = false ∧
        (value == 0.0) = false := hscores _ List.mem_cons_self
    have hadd : s.addScore ⟨id, kind, value⟩ =
        .ok { s with scores := s.scores.add ⟨id, kind, value⟩ } := by
      simp only [addScore, hnumber, hid, hkind, kept_of_ne hzero, Bool.and_self, if_true,
        Bool.false_eq_true, if_false]
    simp only [addScores, hadd]
    exact ih hid fun other hother => hscores other (List.mem_cons_of_mem _ hother)

/-- An organization to begin with is refused exactly for its name. -/
theorem addOrganization_demo {s : Store} {demo : Demo} (hsound : demo.Sound) :
    s.addOrganization demo.organization =
      if s.taken demo then .error .nameTaken
      else .ok ({ s with organizations := s.organizations.add demo.organization },
        s.organizations.next) := by
  have hcompleteness : kept demo.completeness = demo.completeness :=
    kept_of_ne hsound.completeness.2
  have hnumber : demo.organization.completeness.isNaN = false := hsound.completeness.1
  have hname : (s.organizations.rows.any fun row => row.value.name == demo.organization.name) =
      s.taken demo := rfl
  have hkept : { demo.organization with completeness := kept demo.organization.completeness } =
      demo.organization := by
    change { demo.organization with completeness := kept demo.completeness } = demo.organization
    rw [hcompleteness]
    rfl
  simp only [addOrganization, hnumber, hname, hkept, Bool.false_eq_true, if_false]

/-- An organization to begin with whose name is free is added together with its scores. -/
theorem addDemos_cons_of_free {s : Store} {kinds : List ScoreKindId} {demo : Demo}
    (rest : List Demo) (hkinds : ∀ kind ∈ kinds, s.kinds.has kind = true) (hsound : demo.Sound)
    (hfree : s.taken demo = false) :
    s.addDemos kinds (demo :: rest) = (s.withDemos kinds [demo]).addDemos kinds rest := by
  have hscores : ∀ score ∈ kinds.zip demo.scores, s.kinds.has score.1 = true ∧
      score.2.isNaN = false ∧ (score.2 == 0.0) = false := fun score hscore =>
    ⟨hkinds _ (List.of_mem_zip hscore).1, hsound.scores _ (List.of_mem_zip hscore).2⟩
  have hadded := addScores_eq
    (s := { s with organizations := s.organizations.add demo.organization })
    (s.organizations.has_add demo.organization) hscores
  have hall : s.withDemos kinds [demo] =
      { s with
        organizations := s.organizations.add demo.organization
        scores := s.scores.addAll (demo.storedScores s.organizations.next kinds) } := by
    simp [withDemos, storedScoresFrom]
  rw [addDemos, addOrganization_demo hsound, hfree, hall]
  simp only [Bool.false_eq_true, if_false, hadded]
  rfl

/-! ## Adding organizations -/

/-- The first organization is added before the others. -/
theorem withDemos_cons (s : Store) (kinds : List ScoreKindId) (demo : Demo) (rest : List Demo) :
    s.withDemos kinds (demo :: rest) = (s.withDemos kinds [demo]).withDemos kinds rest := by
  simp [withDemos, storedScoresFrom, Register.addAll_append, Register.add, Register.next]

/-- Adding an organization takes no other name. -/
theorem taken_withDemos_of_ne {s : Store} {kinds : List ScoreKindId} {demo other : Demo}
    (h : demo.name ≠ other.name) : (s.withDemos kinds [demo]).taken other = s.taken other := by
  have hname : (demo.organization.name == other.name) = false := beq_false_of_ne h
  simp [taken, withDemos, Register.add, hname]

/-- Names that stay free or taken leave the same organizations to be added. -/
theorem addable_congr {s s' : Store} {demos : List Demo}
    (h : ∀ demo ∈ demos, s'.taken demo = s.taken demo) : s'.addable demos = s.addable demos := by
  induction demos with
  | nil => rfl
  | cons demo rest ih =>
    have hrest := ih fun other hother => h other (List.mem_cons_of_mem _ hother)
    simp only [addable, List.takeWhile_cons, h demo List.mem_cons_self] at hrest ⊢
    rw [hrest]

/-- Organizations with different names are added up to the first one whose name is taken, each with
all its scores. -/
theorem addDemos_eq {s : Store} {kinds : List ScoreKindId} {demos : List Demo}
    (hkinds : ∀ kind ∈ kinds, s.kinds.has kind = true) (hsound : ∀ demo ∈ demos, demo.Sound)
    (hnames : (demos.map Demo.name).Nodup) :
    s.addDemos kinds demos =
      (s.withDemos kinds (s.addable demos),
        if (s.addable demos).length = demos.length then .ok () else .error .nameTaken) := by
  induction demos generalizing s with
  | nil => rfl
  | cons demo rest ih =>
    obtain ⟨hne, hrest⟩ := List.nodup_cons.mp hnames
    have hfirst := hsound demo List.mem_cons_self
    cases htaken : s.taken demo with
    | true =>
      have hnone : s.addable (demo :: rest) = [] := by simp [addable, htaken]
      rw [addDemos, addOrganization_demo hfirst, htaken, hnone]
      rfl
    | false =>
      have hkeep : ∀ other ∈ rest, (s.withDemos kinds [demo]).taken other = s.taken other :=
        fun other hother => taken_withDemos_of_ne fun heq =>
          hne (heq ▸ List.mem_map_of_mem hother)
      have hadded : s.addable (demo :: rest) = demo :: s.addable rest := by simp [addable, htaken]
      rw [addDemos_cons_of_free rest hkinds hfirst htaken,
        ih (s := s.withDemos kinds [demo]) hkinds
          (fun other hother => hsound other (List.mem_cons_of_mem _ hother)) hrest,
        addable_congr hkeep, hadded, ← withDemos_cons]
      simp only [List.length_cons, Nat.add_right_cancel_iff]

/-! ## Filling -/

/-- Seeing to it that kinds exist changes nothing but the kinds. -/
theorem ensureKinds_eq (s : Store) (names : List String) :
    (s.ensureKinds names).1 = { s with kinds := (s.ensureKinds names).1.kinds } := by
  induction names generalizing s with
  | nil => rfl
  | cons name rest ih =>
    have hfirst : (s.ensureKind name).1 = { s with kinds := (s.ensureKind name).1.kinds } := by
      simp only [ensureKind]
      split <;> rfl
    rw [ensureKinds, ih, hfirst]

/-- Seeing to it that kinds exist adds no organization. -/
@[simp] theorem organizations_ensureKinds (s : Store) (names : List String) :
    (s.ensureKinds names).1.organizations = s.organizations := by
  rw [ensureKinds_eq]

/-- Seeing to it that kinds exist adds no score. -/
@[simp] theorem scores_ensureKinds (s : Store) (names : List String) :
    (s.ensureKinds names).1.scores = s.scores := by
  rw [ensureKinds_eq]

/-- Numbers of kinds belong to these names. -/
def NamesKinds (s : Store) (names : List String) (numbers : List ScoreKindId) : Prop :=
  List.Forall₂ (fun name (number : Int) => ∃ row ∈ s.kinds.rows, row.value = name ∧
    row.number = number) names numbers

/-- Adding organizations leaves the kinds as they are. -/
theorem namesKinds_withDemos {s : Store} {names : List String} {numbers kinds : List ScoreKindId}
    {demos : List Demo} :
    (s.withDemos kinds demos).NamesKinds names numbers ↔ s.NamesKinds names numbers :=
  Iff.rfl

/-- The kinds that were seen to exist are there, under the numbers that were answered. -/
theorem namesKinds_ensureKinds (s : Store) (names : List String) :
    (s.ensureKinds names).1.NamesKinds names (s.ensureKinds names).2 := by
  induction names generalizing s with
  | nil => exact .nil
  | cons name rest ih =>
    obtain ⟨row, hrow, hname, hnumber⟩ := s.exists_row_ensureKind name
    have hkept := (grows_of_writes (writes_ensureKinds (s.ensureKind name).1 rest)).keptKinds
    exact .cons ⟨row, hkept.subset hrow, hname, hnumber⟩ (ih _)

/-- Kinds that belong to names exist. -/
theorem NamesKinds.has {s : Store} {names : List String} {numbers : List ScoreKindId}
    (h : s.NamesKinds names numbers) : ∀ number ∈ numbers, s.kinds.has number = true := by
  induction h with
  | nil => simp
  | cons hfirst _ ih =>
    obtain ⟨row, hrow, -, hnumber⟩ := hfirst
    exact List.forall_mem_cons.mpr
      ⟨Register.has_iff.mpr ⟨row.number, Register.mem_numbers.mpr ⟨row, hrow, rfl⟩, hnumber⟩, ih⟩

/-- A store that shows nothing is filled up to the first name that is taken. -/
theorem seed_of_count_eq_zero {s : Store} (h : s.count = 0) :
    s.seed =
      ((s.ensureKinds demoKinds).1.withDemos (s.ensureKinds demoKinds).2 (s.addable demos),
        if (s.addable demos).length = demos.length then .ok demos.length
        else .error .nameTaken) := by
  have hkinds := (s.namesKinds_ensureKinds demoKinds).has
  have haddable : (s.ensureKinds demoKinds).1.addable demos = s.addable demos :=
    addable_congr fun demo _ => by rw [taken, organizations_ensureKinds, taken]
  simp only [seed, h, Nat.lt_irrefl, if_false,
    addDemos_eq hkinds (fun _ => sound_of_mem_demos) nodup_name_demos, haddable]
  split <;> rfl

/-- Every organization that is added is shown. -/
theorem count_withDemos (s : Store) (kinds : List ScoreKindId) (demos : List Demo) :
    (s.withDemos kinds demos).count = s.count + demos.length := by
  obtain ⟨added, hrows, hvalues⟩ :=
    s.organizations.exists_rows_addAll (demos.map Demo.organization)
  have hshown : ∀ row ∈ added, (row.value.status == shownStatus) = true := by
    intro row hrow
    obtain ⟨demo, -, hdemo⟩ := List.mem_map.mp (hvalues ▸ List.mem_map_of_mem hrow)
    rw [← hdemo]
    rfl
  have hlength : added.length = demos.length := by
    simpa using congrArg List.length hvalues
  simp [count, shown, withDemos, hrows, List.filter_eq_self.mpr hshown, hlength]

/-! ## All or nothing -/

/-- Filling a store is whole: all organizations are added with a score of each kind, and their number
is answered; or organizations and scores stay as they are, and nothing or a refusal is answered. -/
def SeedsWhole (s : Store) : Prop :=
  (s.seed.2 = .ok demos.length ∧ ∃ kinds, s.seed.1.NamesKinds demoKinds kinds ∧
      s.seed.1.organizations = s.organizations.addAll (demos.map Demo.organization) ∧
      s.seed.1.scores = s.scores.addAll (storedScoresFrom kinds s.organizations.next demos)) ∨
    ((s.seed.2 = .ok 0 ∨ ∃ e, s.seed.2 = .error e) ∧
      s.seed.1.organizations = s.organizations ∧ s.seed.1.scores = s.scores)

/-- A store that shows nothing, and in which no name is taken, is filled with all organizations. -/
theorem seedsWhole_of_length_eq {s : Store} (h : s.count = 0)
    (hall : (s.addable demos).length = demos.length) : s.SeedsWhole := by
  have hdemos : s.addable demos = demos := (List.takeWhile_prefix _).eq_of_length hall
  have hseed := seed_of_count_eq_zero h
  rw [if_pos hall, hdemos] at hseed
  refine .inl ⟨?_, (s.ensureKinds demoKinds).2, ?_, ?_, ?_⟩
  · rw [hseed]
  · rw [hseed, namesKinds_withDemos]
    exact s.namesKinds_ensureKinds demoKinds
  · simp [hseed, withDemos]
  · simp [hseed, withDemos]

/-- Filling a store that shows nothing is refused for the first name that is taken; what comes before
it has been added by then. -/
theorem seed_refused {s : Store} (h : s.count = 0)
    (hnotAll : (s.addable demos).length ≠ demos.length) :
    s.seed.2 = .error .nameTaken ∧
      s.seed.1.NamesKinds demoKinds (s.ensureKinds demoKinds).2 ∧
      s.seed.1.organizations =
        s.organizations.addAll ((s.addable demos).map Demo.organization) ∧
      s.seed.1.scores =
        s.scores.addAll
          (storedScoresFrom (s.ensureKinds demoKinds).2 s.organizations.next (s.addable demos)) ∧
      s.seed.1.count = (s.addable demos).length := by
  have hseed := seed_of_count_eq_zero h
  rw [if_neg hnotAll] at hseed
  have hbefore : (s.ensureKinds demoKinds).1.count = 0 := by
    rw [count, shown, organizations_ensureKinds]
    exact h
  refine ⟨?_, ?_, ?_, ?_, ?_⟩
  · rw [hseed]
  · rw [hseed, namesKinds_withDemos]
    exact s.namesKinds_ensureKinds demoKinds
  · simp [hseed, withDemos]
  · simp [hseed, withDemos]
  · rw [hseed, count_withDemos, hbefore, Nat.zero_add]

/-- A refusal is whole exactly when the first name is taken. -/
theorem seedsWhole_iff_addable_eq_nil {s : Store} (h : s.count = 0)
    (hnotAll : (s.addable demos).length ≠ demos.length) :
    s.SeedsWhole ↔ s.addable demos = [] := by
  obtain ⟨hrefused, -, horganizations, hscores, -⟩ := seed_refused h hnotAll
  obtain ⟨added, hrows, hvalues⟩ :=
    s.organizations.exists_rows_addAll ((s.addable demos).map Demo.organization)
  constructor
  · rintro (⟨hok, -⟩ | ⟨-, hsame, -⟩)
    · rw [hrefused] at hok
      cases hok
    · rw [← horganizations, hsame, List.self_eq_append_right] at hrows
      rw [hrows, List.map_nil, eq_comm, List.map_eq_nil_iff] at hvalues
      exact hvalues
  · intro hnone
    rw [hnone] at horganizations hscores
    exact .inr ⟨.inr ⟨_, hrefused⟩, horganizations, hscores⟩

/-- Filling a store is all or nothing if and only if it shows something, or none of the names is
taken, or the first of them is. Otherwise the organizations before the first name that is taken are
added with their scores and the name is refused, and filling the store again leaves that as it is. -/
theorem seedsWhole_iff (s : Store) :
    (s.SeedsWhole ↔ 0 < s.count ∨ s.addable demos = demos ∨ s.addable demos = []) ∧
      (s.SeedsWhole ∨
        ∃ kinds, s.seed.2 = .error .nameTaken ∧ s.seed.1.NamesKinds demoKinds kinds ∧
          s.seed.1.organizations =
            s.organizations.addAll ((s.addable demos).map Demo.organization) ∧
          s.seed.1.scores =
            s.scores.addAll (storedScoresFrom kinds s.organizations.next (s.addable demos)) ∧
          s.seed.1.count = (s.addable demos).length ∧ s.seed.1.seed = (s.seed.1, .ok 0)) := by
  rcases Nat.eq_zero_or_pos s.count with hcount | hcount
  · by_cases hall : (s.addable demos).length = demos.length
    · have hwhole := seedsWhole_of_length_eq hcount hall
      have hdemos : s.addable demos = demos := (List.takeWhile_prefix _).eq_of_length hall
      exact ⟨iff_of_true hwhole (.inr (.inl hdemos)), .inl hwhole⟩
    · obtain ⟨hrefused, hkinds, horganizations, hscores, hadded⟩ := seed_refused hcount hall
      have hnil := seedsWhole_iff_addable_eq_nil hcount hall
      have hnotAll : s.addable demos ≠ demos := fun hdemos => hall (congrArg List.length hdemos)
      refine ⟨?_, ?_⟩
      · rw [hnil, hcount]
        simp [hnotAll]
      · rw [hnil, or_iff_not_imp_left]
        intro hsome
        have hshown : 0 < s.seed.1.count := hadded ▸ List.length_pos_iff.mpr hsome
        exact ⟨_, hrefused, hkinds, horganizations, hscores, hadded, seed_of_count_pos hshown⟩
  · have hseed := seed_of_count_pos hcount
    have hwhole : s.SeedsWhole := .inr (by simp [hseed])
    exact ⟨iff_of_true hwhole (.inl hcount), .inl hwhole⟩

/-- When the fourth name is taken by an organization that is hidden, three organizations and their
scores are added before that is found out, and filling the store again adds nothing. -/
theorem seed_beside_hidden :
    let hidden : StoredOrganization :=
      ⟨"Delta Logistics", "C", "https://delta.example", true, true, "P", "O", false, 100.0, 1⟩
    let s := empty.run [.addOrganization hidden, .setStatus 1 0]
    (s.count = 0 ∧ s.organizations.rows.length = 1 ∧ s.scores.rows = []) ∧
      (s.seed.2 = .error .nameTaken ∧ s.seed.1.organizations.rows.length = 4 ∧
        s.seed.1.scores.rows.length = 12) ∧
      s.seed.1.seed.2 = .ok 0 ∧ ¬s.SeedsWhole := by
  intro hidden s
  have hbefore : s.count = 0 ∧ s.organizations.rows.length = 1 ∧ s.scores.rows = [] := by
    decide +kernel
  have hfour : ¬(s.addable demos).length = demos.length := by decide +kernel
  have hrefused : s.seed.2 = .error .nameTaken := by
    rw [seed_of_count_eq_zero hbefore.1, if_neg hfour]
  have hrows : s.seed.1.organizations.rows.length = 4 ∧ s.seed.1.scores.rows.length = 12 := by
    decide +kernel
  have hshown : 0 < s.seed.1.count := by decide +kernel
  have hagain : s.seed.1.seed.2 = .ok 0 := by
    rw [seed_of_count_pos hshown]
  refine ⟨hbefore, ⟨hrefused, hrows⟩, hagain, ?_⟩
  rintro (⟨hok, -⟩ | ⟨-, horganizations, -⟩)
  · rw [hrefused] at hok
    cases hok
  · rw [horganizations, hbefore.2.1] at hrows
    exact absurd hrows.1 (by decide)

end Store

end Roster
