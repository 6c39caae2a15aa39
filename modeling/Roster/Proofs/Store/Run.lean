import Mathlib.Data.List.Induction
import Roster.Proofs.Store.Integrity

/-!
# Runs of a database

A database is set up and then written to, in any order, and any of it may be refused. After every
run names are given once, numbers are given once and in rising order, and scores refer to what is
there; what is refused leaves no trace; and a kind keeps the number it was answered by at first.
-/

namespace Roster

namespace Store

/-! ## Operations -/

/-- Something that is done to a store. -/
inductive Operation where
  | addOrganization (o : StoredOrganization)
  | ensureKind (name : String)
  | addScore (score : StoredScore)
  | seed
  | setStatus (id : OrganizationId) (status : Int)

/-- What an operation answers: nothing, a number, or why it is refused. -/
inductive Outcome where
  | done
  | number (value : Int)
  | refused (reason : StoreError)

/-- What an operation leads to, and what it answers. An organization that is added is shown. -/
def perform (s : Store) : Operation → Store × Outcome
  | .addOrganization o =>
    match s.addOrganization { o with status := shownStatus } with
    | .ok (s, id) => (s, .number id)
    | .error e => (s, .refused e)
  | .ensureKind name => ((s.ensureKind name).1, .number (s.ensureKind name).2)
  | .addScore score =>
    match s.addScore score with
    | .ok s => (s, .done)
    | .error e => (s, .refused e)
  | .seed =>
    match s.seed with
    | (s, .ok count) => (s, .number count)
    | (s, .error e) => (s, .refused e)
  | .setStatus id status => ((s.setStatus id status).1, .number (s.setStatus id status).2)

/-- The store after operations, the first of them performed first. -/
def run (s : Store) (ops : List Operation) : Store :=
  ops.foldl (fun s op => (s.perform op).1) s

/-- Every operation is a sequence of writes. -/
theorem writes_perform (s : Store) (op : Operation) : s.Writes (s.perform op).1 := by
  cases op with
  | addOrganization o =>
    simp only [perform]
    split
    · rename_i hadd
      exact .single (write_of_addOrganization hadd)
    · exact .refl
  | ensureKind name => exact .single (s.write_ensureKind name)
  | addScore score =>
    simp only [perform]
    split
    · rename_i hadd
      exact .single (write_of_addScore hadd)
    · exact .refl
  | seed =>
    have hseed := s.writes_seed
    simp only [perform]
    split <;> simp_all
  | setStatus id status => exact .single (.status id status)

/-- A run is a sequence of writes. -/
theorem writes_run (s : Store) (ops : List Operation) : s.Writes (s.run ops) := by
  induction ops generalizing s with
  | nil => exact .refl
  | cons op rest ih => exact (s.writes_perform op).trans (ih _)

/-- A store is consistent after every run. -/
theorem consistent_run (ops : List Operation) : (empty.run ops).Consistent :=
  consistent_empty.writes (empty.writes_run ops)

/-- An organization is refused when it has no completeness or a name that is taken. -/
theorem refused_addOrganization_iff (s : Store) (o : StoredOrganization) :
    (∃ e, (s.perform (.addOrganization o)).2 = .refused e) ↔
      o.completeness.isNaN = true ∨ ∃ row ∈ s.organizations.rows, row.value.name = o.name := by
  have hrefused : (∃ e, (s.perform (.addOrganization o)).2 = .refused e) ↔
      ∃ e, s.addOrganization { o with status := shownStatus } = .error e := by
    simp only [perform]
    split <;> simp_all
  rw [hrefused]
  simp only [addOrganization_eq_error_iff]
  cases o.completeness.isNaN <;> simp

/-- A score is refused when it has no value or refers to something that is not there. -/
theorem refused_addScore_iff (s : Store) (score : StoredScore) :
    (∃ e, (s.perform (.addScore score)).2 = .refused e) ↔
      score.value.isNaN = true ∨ s.organizations.has score.organization = false ∨
        s.kinds.has score.kind = false := by
  have hrefused : (∃ e, (s.perform (.addScore score)).2 = .refused e) ↔
      ∃ e, s.addScore score = .error e := by
    simp only [perform]
    split <;> simp_all
  rw [hrefused]
  simp only [addScore_eq_error_iff, Bool.and_eq_false_iff]
  cases score.value.isNaN <;> simp

/-- An organization that is not refused is added under the number that is answered. -/
theorem perform_addOrganization_of_number {s : Store} {o : StoredOrganization} {id : Int}
    (h : (s.perform (.addOrganization o)).2 = .number id) :
    let s' := (s.perform (.addOrganization o)).1
    (∃ number : Nat, (number : Int) = id ∧
        s'.organizations.rows = s.organizations.rows ++
          [⟨number, { o with status := 1, completeness := kept o.completeness }⟩]) ∧
      s'.kinds = s.kinds ∧ s'.scores = s.scores := by
  simp only [perform] at h ⊢
  split at h
  · rename_i s' id' hadd
    obtain ⟨-, -, rfl, rfl⟩ := addOrganization_eq_ok_iff.mp hadd
    exact ⟨⟨s.organizations.next, Outcome.number.inj h, rfl⟩, rfl, rfl⟩
  · cases h

/-- A score that is not refused is added. -/
theorem perform_addScore_of_done {s : Store} {score : StoredScore}
    (h : (s.perform (.addScore score)).2 = .done) :
    let s' := (s.perform (.addScore score)).1
    (∃ number, s'.scores.rows =
        s.scores.rows ++ [⟨number, { score with value := kept score.value }⟩]) ∧
      s'.organizations = s.organizations ∧ s'.kinds = s.kinds := by
  simp only [perform] at h ⊢
  split at h
  · rename_i s' hadd
    obtain ⟨-, -, -, rfl⟩ := addScore_eq_ok_iff.mp hadd
    exact ⟨⟨s.scores.next, rfl⟩, rfl, rfl⟩
  · cases h

end Store

/-! ## Databases -/

/-- A database. It has no registers until it is set up. -/
structure Database where
  store? : Option Store

namespace Database

/-- The database that has not been set up. -/
def blank : Database := ⟨none⟩

/-- Something that is done to a database. -/
inductive Operation where
  | setUp
  | write (op : Store.Operation)

/-- The name of the register that an operation asks for first. -/
def Operation.register : Store.Operation → String
  | .addOrganization _ | .seed | .setStatus _ _ => "organization"
  | .ensureKind _ => "score_type"
  | .addScore _ => "score"

/-- What an operation leads to, and what it answers. -/
def perform (d : Database) : Operation → Database × Store.Outcome
  | .setUp => (⟨some (.setUp d.store?)⟩, .done)
  | .write op =>
    match d.store? with
    | none => (d, .refused (.noRegister (Operation.register op)))
    | some s => (⟨some (s.perform op).1⟩, (s.perform op).2)

/-- The database after operations, the first of them performed first. -/
def run (d : Database) (ops : List Operation) : Database :=
  ops.foldl (fun d op => (d.perform op).1) d

@[simp] theorem run_append (d : Database) (before after : List Operation) :
    d.run (before ++ after) = (d.run before).run after :=
  List.foldl_append

/-- One of the three registers. -/
inductive Table where
  | organizations
  | kinds
  | scores

/-- The numbers of the rows of a store. -/
def Table.numbers (s : Store) : Table → List Nat
  | .organizations => s.organizations.numbers
  | .kinds => s.kinds.numbers
  | .scores => s.scores.numbers

/-- The numbers of the rows of a database; without registers there are none. -/
def numbers (d : Database) (table : Table) : List Nat :=
  d.store?.elim [] fun s => table.numbers s

/-- Writes lead from what a database holds to what another one holds. -/
def Leads (d d' : Database) : Prop :=
  ∀ s, d.store? = some s → ∃ s', d'.store? = some s' ∧ s.Writes s'

theorem Leads.refl (d : Database) : d.Leads d :=
  fun s hs => ⟨s, hs, .refl⟩

theorem Leads.trans {d d' d'' : Database} (h : d.Leads d') (h' : d'.Leads d'') : d.Leads d'' := by
  intro s hs
  obtain ⟨s', hs', hwrites⟩ := h s hs
  obtain ⟨s'', hs'', hwrites'⟩ := h' s' hs'
  exact ⟨s'', hs'', hwrites.trans hwrites'⟩

/-- Operations write to what is there. -/
theorem leads_perform (d : Database) (op : Operation) : d.Leads (d.perform op).1 := by
  intro s hs
  cases op with
  | setUp => exact ⟨s, by simp [perform, hs, Store.setUp], .refl⟩
  | write op => exact ⟨(s.perform op).1, by simp [perform, hs], s.writes_perform op⟩

/-- Runs write to what is there. -/
theorem leads_run (d : Database) (ops : List Operation) : d.Leads (d.run ops) := by
  induction ops generalizing d with
  | nil => exact .refl d
  | cons op rest ih => exact (d.leads_perform op).trans (ih _)

/-- What a database holds is consistent. -/
def Consistent (d : Database) : Prop :=
  ∀ s, d.store? = some s → s.Consistent

/-- Every operation keeps a database consistent. -/
theorem Consistent.perform {d : Database} (h : d.Consistent) (op : Operation) :
    (d.perform op).1.Consistent := by
  intro s' hs'
  cases hstore : d.store? with
  | some s =>
    obtain ⟨s'', hs'', hwrites⟩ := d.leads_perform op s hstore
    obtain rfl := Option.some.inj (hs'.symm.trans hs'')
    exact (h s hstore).writes hwrites
  | none =>
    cases op with
    | setUp =>
      obtain rfl : Store.empty = s' := by simpa [Database.perform, hstore, Store.setUp] using hs'
      exact Store.consistent_empty
    | write op => simp [Database.perform, hstore] at hs'

/-- A database that started blank is consistent after every run. -/
theorem consistent_run (ops : List Operation) : (blank.run ops).Consistent := by
  induction ops using List.reverseRecOn with
  | nil => exact fun s hs => nomatch hs
  | append_singleton ops op ih =>
    rw [run_append]
    exact ih.perform op

/-- Once it has been set up, a database has registers. -/
theorem exists_store_of_setUp {ops : List Operation} (h : .setUp ∈ ops) (d : Database) :
    ∃ s, (d.run ops).store? = some s := by
  obtain ⟨before, after, rfl⟩ := List.append_of_mem h
  obtain ⟨s, hs, -⟩ := ((d.run before).perform .setUp).1.leads_run after _ rfl
  exact ⟨s, by rw [run_append]; exact hs⟩

/-- A row that is new has a greater number than all rows that were ever there. -/
theorem lt_of_new {d d' d'' : Database} (hd : d'.Consistent) (h : d.Leads d') (h' : d'.Leads d'')
    (table : Table) {m n : Nat} (hm : m ∈ d.numbers table) (hn : n ∈ d''.numbers table)
    (hnew : n ∉ d'.numbers table) : m < n := by
  cases hstore : d.store? with
  | none => simp [numbers, hstore] at hm
  | some s =>
    obtain ⟨s', hs', hwrites⟩ := h s hstore
    obtain ⟨s'', hs'', hwrites'⟩ := h' s' hs'
    have hgrows := Store.grows_of_writes hwrites
    have hgrows' := Store.grows_of_writes hwrites'
    have hconsistent := hd s' hs'
    simp only [numbers, hstore, hs', hs'', Option.elim] at hm hn hnew
    cases table with
    | organizations =>
      exact hgrows'.organizations.lt_of_not_mem hconsistent.organizations.wellNumbered
        (hgrows.organizations.subset hm) hn hnew
    | kinds =>
      exact hgrows'.kinds.lt_of_not_mem hconsistent.kinds.wellNumbered
        (hgrows.kinds.subset hm) hn hnew
    | scores =>
      exact hgrows'.scores.lt_of_not_mem hconsistent.scores.wellNumbered
        (hgrows.scores.subset hm) hn hnew

/-! ## What is refused -/

/-- An organization that is refused leaves no trace. -/
theorem perform_addOrganization_refused {d : Database} {o : StoredOrganization} {e : StoreError}
    (h : (d.perform (.write (.addOrganization o))).2 = .refused e) :
    (d.perform (.write (.addOrganization o))).1 = d := by
  obtain ⟨held⟩ := d
  cases held with
  | none => rfl
  | some s =>
    simp only [perform, Store.perform] at h ⊢
    split <;> simp_all

/-- A score that is refused leaves no trace. -/
theorem perform_addScore_refused {d : Database} {score : StoredScore} {e : StoreError}
    (h : (d.perform (.write (.addScore score))).2 = .refused e) :
    (d.perform (.write (.addScore score))).1 = d := by
  obtain ⟨held⟩ := d
  cases held with
  | none => rfl
  | some s =>
    simp only [perform, Store.perform] at h ⊢
    split <;> simp_all

/-- Setting up a database that has registers changes nothing. -/
theorem perform_setUp {d : Database} {s : Store} (h : d.store? = some s) :
    d.perform .setUp = (d, .done) := by
  obtain ⟨held⟩ := d
  subst h
  rfl

/-- On a database with registers an operation does what it does to the store. -/
theorem perform_write {d : Database} {s : Store} (h : d.store? = some s) (op : Store.Operation) :
    d.perform (.write op) = (⟨some (s.perform op).1⟩, (s.perform op).2) := by
  simp only [perform, h]

/-- Seeing to it that a kind exists is never refused, and whatever happens in between, the kind is
answered by the same number again and every other one by another number. -/
theorem exists_number_ensureKind {d : Database} {s : Store} (hd : d.Consistent)
    (h : d.store? = some s) (name name' : String) (later : List Operation) :
    ∃ id id', (d.perform (.write (.ensureKind name))).2 = .number id ∧
      (((d.perform (.write (.ensureKind name))).1.run later).perform
        (.write (.ensureKind name'))).2 = .number id' ∧
      (id' = id ↔ name' = name) := by
  rw [perform_write h]
  obtain ⟨s', hs', hwrites⟩ :=
    leads_run ⟨some (s.perform (.ensureKind name)).1⟩ later _ rfl
  refine ⟨(s.ensureKind name).2, (s'.ensureKind name').2, rfl, ?_, ?_⟩
  · rw [perform_write hs']
    rfl
  · exact Store.ensureKind_eq_iff (hd s h) hwrites

/-- After any operations on a blank database, names and numbers are given once and scores refer to
what is there, and whatever is added next has a greater number than all that its register ever held.
An organization or a score that is refused leaves the database as it was, numbers to come included.
Once there are registers, setting up changes nothing, an organization is refused for its name and a
score for what it refers to (or for a number that is none). What is not refused is added as the last
row, an organization under the number that is answered, and nothing else changes; a zero loses its
sign. A kind is never refused: its name is always answered by the number of its row, which is that of
the first time, and other names by others. -/
theorem integrity_run (ops : List Operation) :
    let d := blank.run ops
    (∀ s, d.store? = some s → s.Consistent) ∧
      (∀ earlier later, ops = earlier ++ later → ∀ op table,
        ∀ m ∈ (blank.run earlier).numbers table, ∀ n ∈ (d.perform op).1.numbers table,
          n ∉ d.numbers table → m < n) ∧
      (∀ o e, (d.perform (.write (.addOrganization o))).2 = .refused e →
        (d.perform (.write (.addOrganization o))).1 = d) ∧
      (∀ score e, (d.perform (.write (.addScore score))).2 = .refused e →
        (d.perform (.write (.addScore score))).1 = d) ∧
      (.setUp ∈ ops → ∃ s, d.store? = some s) ∧
      ∀ s, d.store? = some s →
        d.perform .setUp = (d, .done) ∧
        (∀ o, (∃ e, (d.perform (.write (.addOrganization o))).2 = .refused e) ↔
          o.completeness.isNaN = true ∨ ∃ row ∈ s.organizations.rows, row.value.name = o.name) ∧
        (∀ score, (∃ e, (d.perform (.write (.addScore score))).2 = .refused e) ↔
          score.value.isNaN = true ∨ s.organizations.has score.organization = false ∨
            s.kinds.has score.kind = false) ∧
        (∀ o id, (d.perform (.write (.addOrganization o))).2 = .number id →
          ∃ s', (d.perform (.write (.addOrganization o))).1.store? = some s' ∧
            (∃ number : Nat, (number : Int) = id ∧
              s'.organizations.rows = s.organizations.rows ++ [⟨number, { o with
                status := 1
                completeness := if o.completeness == 0.0 then 0.0 else o.completeness }⟩]) ∧
            s'.kinds = s.kinds ∧ s'.scores = s.scores) ∧
        (∀ score, (d.perform (.write (.addScore score))).2 = .done →
          ∃ s', (d.perform (.write (.addScore score))).1.store? = some s' ∧
            (∃ number, s'.scores.rows = s.scores.rows ++ [⟨number, { score with
              value := if score.value == 0.0 then 0.0 else score.value }⟩]) ∧
            s'.organizations = s.organizations ∧ s'.kinds = s.kinds) ∧
        (∀ name id, (d.perform (.write (.ensureKind name))).2 = .number id →
          ∃ s', (d.perform (.write (.ensureKind name))).1.store? = some s' ∧
            ∃ row ∈ s'.kinds.rows, row.value = name ∧ (row.number : Int) = id) ∧
        ∀ name name' later, ∃ id id',
          (d.perform (.write (.ensureKind name))).2 = .number id ∧
            (((d.perform (.write (.ensureKind name))).1.run later).perform
              (.write (.ensureKind name'))).2 = .number id' ∧
            (id' = id ↔ name' = name) := by
  intro d
  have hd : d.Consistent := consistent_run ops
  refine ⟨hd, ?_, fun o e => perform_addOrganization_refused,
    fun score e => perform_addScore_refused, fun hsetUp => exists_store_of_setUp hsetUp blank,
    fun s hs => ⟨perform_setUp hs, ?_, ?_, ?_, ?_, ?_, ?_⟩⟩
  · intro earlier later hops op table m hm n hn hnew
    have hearlier : (blank.run earlier).Leads d := by
      have hleads := (blank.run earlier).leads_run later
      rwa [← run_append, ← hops] at hleads
    exact lt_of_new hd hearlier (d.leads_perform op) table hm hn hnew
  · intro o
    rw [perform_write hs]
    exact s.refused_addOrganization_iff o
  · intro score
    rw [perform_write hs]
    exact s.refused_addScore_iff score
  · intro o id hadded
    rw [perform_write hs] at hadded ⊢
    obtain ⟨hrow, hrest⟩ := Store.perform_addOrganization_of_number hadded
    exact ⟨_, rfl, hrow, hrest⟩
  · intro score hadded
    rw [perform_write hs] at hadded ⊢
    exact ⟨_, rfl, Store.perform_addScore_of_done hadded⟩
  · intro name id hnumber
    rw [perform_write hs] at hnumber ⊢
    obtain ⟨row, hrow, hname, hid⟩ := s.exists_row_ensureKind name
    exact ⟨_, rfl, row, hrow, hname, hid.trans (Store.Outcome.number.inj hnumber)⟩
  · exact exists_number_ensureKind hd hs

/-- A name that is taken and a score of a kind that does not exist are refused without a trace, and
setting up once more changes nothing. -/
theorem integrity_run_refused :
    let acme : StoredOrganization :=
      ⟨"Acme", "Startup", "", true, false, "SEED", "REMOTE", true, 80.0, 1⟩
    let d := blank.run [.setUp, .write (.addOrganization acme), .write (.ensureKind "Pay")]
    (d.perform (.write (.addOrganization acme))).1 = d ∧
      (d.perform (.write (.addScore ⟨1, 2, 4.0⟩))).1 = d ∧ d.perform .setUp = (d, .done) := by
  intro acme d
  obtain ⟨-, -, horganization, hscore, hregisters, hheld⟩ :=
    integrity_run [.setUp, .write (.addOrganization acme), .write (.ensureKind "Pay")]
  obtain ⟨s, hs⟩ := hregisters (by simp)
  obtain ⟨hsetUp, hnames, hreferences, -⟩ := hheld s hs
  obtain rfl : s = (Store.empty.run [.addOrganization acme, .ensureKind "Pay"]) :=
    (Option.some.inj hs).symm
  obtain ⟨e, he⟩ := (hnames acme).mpr (.inr (by decide +kernel))
  obtain ⟨e', he'⟩ := (hreferences ⟨1, 2, 4.0⟩).mpr (.inr (.inr (by decide +kernel)))
  exact ⟨horganization acme e he, hscore ⟨1, 2, 4.0⟩ e' he', hsetUp⟩

end Database

end Roster
