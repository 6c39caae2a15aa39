import Mathlib.Data.List.Nodup
import Mathlib.Data.List.Perm.Basic
import Roster.Proofs.Directory.Run
import Roster.Terminal.Session
import Roster.Web.Session

/-!
# The order of arrival

An answer does two things to a directory: what it brings is kept, and the popup that waited for it
is shown. Answers to different requests bring different things, since each table has an answer of
its own and details of different organizations are merged into different records. The popup waits
for one answer at most. So answers to different requests may arrive in any order and lead to the
same directory.
-/

namespace Roster.Directory

/-- Takes in an answer. Scores are not for the directory. -/
def receive (d : Directory) : Answer → Step Directory
  | .fundingRounds result => d.receiveFundingRounds result
  | .rtoPolicies result => d.receiveRtoPolicies result
  | .detail id result => d.receiveDetail id result
  | .scores _ _ => .silent d

/-- Takes in answers, the first of them first. -/
def receiveAll (d : Directory) (answers : List Answer) : Directory :=
  answers.foldl (fun d answer => (d.receive answer).state) d

/-! ## The two parts of an answer -/

/-- Keeps what an answer brings: a table, or details for the organization of the id. -/
def keep (d : Directory) : Answer → Directory
  | .fundingRounds (.ok choices) => { d with fundingRounds := choices }
  | .rtoPolicies (.ok choices) => { d with rtoPolicies := choices }
  | .detail id (.ok detail) =>
    { d with organizations := updateFirst id (·.mergeDetail detail) d.organizations }
  | _ => d

/-- Shows the popup that waited for an answer. -/
def reveal (d : Directory) : Answer → Directory
  | .detail id _ => d.settle id
  | _ => d

/-- An answer is kept, and then settles what was waited for. -/
theorem receive_state (d : Directory) (answer : Answer) :
    (d.receive answer).state = (d.keep answer).reveal answer := by
  cases answer with
  | fundingRounds result => cases result <;> rfl
  | rtoPolicies result => cases result <;> rfl
  | detail id result => cases result <;> rfl
  | scores id result => rfl

variable {id other : OrganizationId}

/-- Keeping what an answer brings changes only the organizations and the tables. -/
theorem keep_eq (d : Directory) (answer : Answer) :
    ∃ os rounds policies, d.keep answer =
      { d with organizations := os, fundingRounds := rounds, rtoPolicies := policies } := by
  unfold keep
  split <;> exact ⟨_, _, _, rfl⟩

/-- Keeping what an answer brings leaves open what is waited for. -/
theorem keep_pending (d : Directory) (answer : Answer) : (d.keep answer).pending = d.pending := by
  obtain ⟨_, _, _, hkeep⟩ := d.keep_eq answer
  rw [hkeep]

/-! ## Answers to different requests -/

/-- Details of different organizations are merged in any order, since no details change an id. -/
theorem updateFirst_comm (h : id ≠ other) (detail detail' : OrganizationDetail)
    (os : List Organization) :
    updateFirst id (·.mergeDetail detail) (updateFirst other (·.mergeDetail detail') os) =
      updateFirst other (·.mergeDetail detail') (updateFirst id (·.mergeDetail detail) os) := by
  have hkept (o : Organization) (detail : OrganizationDetail) : (o.mergeDetail detail).id = o.id :=
    rfl
  induction os with
  | nil => rfl
  | cons o rest ih =>
    by_cases hid : o.id = id
    · simp [updateFirst, hkept, hid, h]
    · by_cases hother : o.id = other
      · simp [updateFirst, hkept, hother, Ne.symm h]
      · simp [updateFirst, hid, hother, ih]

/-- What the answers to different requests bring is kept in any order. -/
theorem keep_comm (d : Directory) {first second : Answer} (h : first.request ≠ second.request) :
    (d.keep first).keep second = (d.keep second).keep first := by
  -- Only answers of one kind change the same part of the directory.
  rcases first with ⟨_ | rounds⟩ | ⟨_ | policies⟩ | ⟨id, _ | detail⟩ | ⟨id, result⟩ <;>
    rcases second with ⟨_ | rounds'⟩ | ⟨_ | policies'⟩ | ⟨other, _ | detail'⟩ | ⟨other, result'⟩ <;>
    try rfl
  · exact absurd rfl h
  · exact absurd rfl h
  · have hne : other ≠ id := fun heq => h (congrArg Request.detail heq.symm)
    simp only [keep]
    rw [updateFirst_comm hne]

/-- Details of one organization at most are waited for, so details of different ones may be settled
in either order. -/
theorem settle_comm (h : id ≠ other) (d : Directory) :
    (d.settle id).settle other = (d.settle other).settle id := by
  have hsettled {shown id : OrganizationId} :
      ({ d with pending := none }.openPopup shown).pending ≠ some id :=
    (Option.some_ne_none id).symm
  by_cases hid : d.pending = some id
  · have hother : d.pending ≠ some other := by simpa [hid] using h
    rw [settle_of_ne hother, settle_of_pending hid, settle_of_ne hsettled]
  · by_cases hother : d.pending = some other
    · rw [settle_of_ne hid, settle_of_pending hother, settle_of_ne hsettled]
    · rw [settle_of_ne hid, settle_of_ne hother, settle_of_ne hid]

/-- Of the answers to different requests at most one was waited for. -/
theorem reveal_comm (d : Directory) {first second : Answer} (h : first.request ≠ second.request) :
    (d.reveal first).reveal second = (d.reveal second).reveal first := by
  cases first with
  | detail id result =>
    cases second with
    | detail other result' => exact settle_comm (fun heq => h (congrArg Request.detail heq)) d
    | _ => rfl
  | _ => rfl

/-- Showing the popup and keeping what another answer brings are independent. -/
theorem keep_reveal (d : Directory) (first second : Answer) :
    (d.reveal first).keep second = (d.keep second).reveal first := by
  cases first with
  | detail id result =>
    by_cases hid : d.pending = some id
    · have hkept : (d.keep second).pending = some id := (d.keep_pending second).trans hid
      simp only [reveal]
      rw [settle_of_pending hid, settle_of_pending hkept]
      unfold keep
      split <;> rfl
    · have hkept : (d.keep second).pending ≠ some id := by rwa [keep_pending]
      simp only [reveal]
      rw [settle_of_ne hid, settle_of_ne hkept]
  | _ => rfl

/-- Answers to different requests may arrive in either order. -/
theorem receive_comm (d : Directory) {first second : Answer}
    (h : first.request ≠ second.request) :
    ((d.receive first).state.receive second).state =
      ((d.receive second).state.receive first).state := by
  simp only [receive_state]
  calc (((d.keep first).reveal first).keep second).reveal second
      = (((d.keep first).keep second).reveal first).reveal second := by rw [keep_reveal]
    _ = (((d.keep second).keep first).reveal second).reveal first := by
      rw [keep_comm d h, reveal_comm _ h]
    _ = (((d.keep second).reveal second).keep first).reveal first := by rw [keep_reveal]

/-- Answers to pairwise different requests may arrive in any order: the directory is the same
afterwards in all that it holds, lists, shows and waits for. -/
theorem receiveAll_eq_of_perm (d : Directory) {answers arrived : List Answer}
    (hdistinct : (answers.map Answer.request).Nodup) (hperm : answers.Perm arrived) :
    d.receiveAll answers = d.receiveAll arrived := by
  apply hperm.foldl_eq'
  intro first hfirst second hsecond d
  by_cases heq : first = second
  · rw [heq]
  · have hne : first.request ≠ second.request := fun h =>
      heq (List.inj_on_of_nodup_map hdistinct hfirst hsecond h)
    exact d.receive_comm hne

/-- Details that could not be fetched may come first or last: the popup that waited for them is
shown all the same. -/
theorem receiveAll_reversed :
    let d := ((ofList [.bare 1, .bare 2] .standard none).activate 1).state
    let answers : List Answer :=
      [.detail 2 (.ok { OrganizationDetail.blank with name := some "Two" }),
        .detail 1 (.error (.notFound 1)), .rtoPolicies (.ok (.ofList [("R", "Remote")]))]
    (answers.map Answer.request).Nodup ∧ answers.Perm answers.reverse ∧
      d.receiveAll answers = d.receiveAll answers.reverse := by
  intro d answers
  have hdistinct : (answers.map Answer.request).Nodup := by decide
  have hperm : answers.Perm answers.reverse := (List.reverse_perm answers).symm
  exact ⟨hdistinct, hperm, receiveAll_eq_of_perm d hdistinct hperm⟩

end Roster.Directory

namespace Roster

/-! ## Sessions -/

/-- A session on the terminal takes an answer into its directory. -/
theorem Terminal.Session.receive_directory (s : Terminal.Session) (answer : Answer) :
    (s.receive answer).state.directory = (s.directory.receive answer).state := by
  cases answer <;> rfl

/-- A session on the web takes an answer into its directory. -/
theorem Web.Session.receive_directory (s : Web.Session) (answer : Answer) :
    (s.receive answer).state.directory = (s.directory.receive answer).state := by
  cases answer <;> rfl

end Roster
