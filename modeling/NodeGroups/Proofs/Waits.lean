import Mathlib.Algebra.BigOperators.Group.Finset.Basic
import Mathlib.Algebra.Order.Floor.Div
import NodeGroups.Proofs.Turns
import NodeGroups.Simulation.Network

namespace NodeGroups

/-- What is answered to one request after the other: each response, and how long it takes. -/
def Answers : Type := Nat → Nat × Response

namespace Answers

def delay (answers : Answers) (i : Nat) : Nat := (answers i).1

def response (answers : Answers) (i : Nat) : Response := (answers i).2

/-- Turns whose responses are those from the `i`-th on. -/
def Given (answers : Answers) (i : Nat) (turns : List Turn) : Prop :=
  ∀ j t, turns[j]? = some t → t.delay = answers.delay (i + j) ∧ t.response = answers.response (i + j)

theorem given_nil (answers : Answers) (i : Nat) : answers.Given i [] := by
  intro j t h
  simp at h

theorem given_cons_iff {answers : Answers} {i delay : Nat} {request : Request} {response : Response}
    {turns : List Turn} : answers.Given i (⟨request, delay, response⟩ :: turns) ↔
      (delay = answers.delay i ∧ response = answers.response i) ∧ answers.Given (i + 1) turns := by
  constructor
  · intro h
    refine ⟨h 0 _ rfl, fun j t ht => ?_⟩
    have hnext := h (j + 1) t ht
    rwa [show i + (j + 1) = i + 1 + j by omega] at hnext
  · intro h j t ht
    cases j with
    | zero =>
      cases ht
      exact h.1
    | succ j =>
      rw [show i + (j + 1) = i + 1 + j by omega]
      exact h.2 j t ht

end Answers

namespace JobWait

/-- The answer, well-formed, that a job is still pending. -/
def Pending (r : Response) : Prop := ∃ result, r.Tells 0 result

/-- The code of a failed job: the error code of its result, or 530 if that has none of 16 bits. -/
def FailureCode (result : Json) (code : UInt16) : Prop :=
  Response.Coded result code.toNat ∨ (∀ n, Response.Coded result n → 65536 ≤ n) ∧ code = 530

/-- What a response comes to that ends a wait, `elapsed` after the wait began. -/
inductive Verdict (w : JobWait) (elapsed : Nat) (r : Response) : Except Error Json → Prop
  | unread {e : Error} (untold : ∀ status result, ¬ r.Tells status result)
    (fails : r.Fails "queryAsyncJobResult" JobState.decode e) : Verdict w elapsed r (.error e)
  | succeeded {result : Option Json} (told : r.Tells 1 result) :
    Verdict w elapsed r (.ok (result.getD .null))
  | failed {status : UInt8} {result : Json} {code : UInt16} {text : String}
    (told : r.Tells status (some result)) (hpending : status ≠ 0) (hsucceeded : status ≠ 1)
    (hcode : FailureCode result code) (hreason : Response.Reason result text) :
    Verdict w elapsed r (.error (.api code text))
  | failedBare {status : UInt8} (told : r.Tells status none) (hpending : status ≠ 0)
    (hsucceeded : status ≠ 1) :
    Verdict w elapsed r (.error (.asyncJob ("async job " ++ w.jobId ++ " failed")))
  | late {result : Option Json} (told : r.Tells 0 result) (htime : w.timeout ≤ elapsed) :
    Verdict w elapsed r
      (.error (.asyncJob ("timeout while waiting for async job " ++ w.jobId ++ " to finish")))

variable {w : JobWait} {elapsed : Nat} {r : Response}

theorem pending_iff : Pending r ↔ ∃ result, r.decode command JobState.decode = .ok ⟨0, result⟩ :=
  exists_congr fun _ => Response.decode_state_iff.symm

theorem failureCode_iff {result : Json} {code : UInt16} : FailureCode result code ↔
    ((Response.errorCode? result).bind Response.narrow?).getD defaultCode = code := by
  have hsize : UInt16.size = 65536 := rfl
  unfold FailureCode
  simp only [← Response.errorCode?_eq_some_iff]
  cases herror : Response.errorCode? result with
  | none => simp [defaultCode, eq_comm]
  | some n =>
    simp only [Option.some.injEq, Option.bind_some, Response.narrow?, hsize, forall_eq']
    by_cases hnarrow : n < 65536
    · rw [if_pos hnarrow, Option.getD_some, or_iff_left (by omega)]
      constructor
      · rintro rfl
        exact UInt16.ofNat_toNat
      · rintro rfl
        rw [UInt16.toNat_ofNat', Nat.mod_eq_of_lt hnarrow]
    · have hcode : code.toNat < 65536 := code.toNat_lt
      rw [if_neg hnarrow, Option.getD_none, or_iff_right (by omega)]
      simp [defaultCode, Nat.not_lt.mp hnarrow, eq_comm]

theorem judge_eq_none_iff : w.judge elapsed r = none ↔ Pending r ∧ elapsed < w.timeout := by
  rw [pending_iff]
  unfold judge
  cases hd : r.decode command JobState.decode with
  | error e => simp
  | ok state =>
    obtain ⟨status, value⟩ := state
    by_cases hpending : status = 0
    · subst hpending
      simp
    · by_cases hsucceeded : status = 1 <;> simp [hpending, hsucceeded]

/-- What a look decides is a verdict on the response to it. -/
theorem verdict_of_judge {result : Except Error Json} (h : w.judge elapsed r = some result) :
    w.Verdict elapsed r result := by
  unfold judge at h
  cases hd : r.decode command JobState.decode with
  | error e =>
    rw [hd] at h
    cases h
    refine .unread (fun status result htold => ?_) (Response.decode_error_iff.mp hd)
    cases (Response.decode_state_iff.mpr htold).symm.trans hd
  | ok state =>
    obtain ⟨status, value⟩ := state
    have htold : r.Tells status value := Response.decode_state_iff.mp hd
    rw [hd] at h
    by_cases hpending : status = 0
    · subst hpending
      by_cases htime : w.timeout ≤ elapsed
      · simp only [if_true, htime, Option.some.injEq] at h
        subst h
        exact .late htold htime
      · simp [htime] at h
    · by_cases hsucceeded : status = 1
      · subst hsucceeded
        simp only [hpending, if_false, if_true, Option.some.injEq] at h
        subst h
        exact .succeeded htold
      · simp only [hpending, hsucceeded, if_false, Option.some.injEq] at h
        subst h
        cases value with
        | none => exact .failedBare htold hpending hsucceeded
        | some value =>
          exact .failed htold hpending hsucceeded (failureCode_iff.mpr rfl)
            (Response.reason_iff.mpr rfl)

theorem judge_eq_some_iff {result : Except Error Json} :
    w.judge elapsed r = some result ↔ w.Verdict elapsed r result := by
  refine ⟨verdict_of_judge, fun h => ?_⟩
  unfold judge
  cases h with
  | unread untold fails => rw [show r.decode command JobState.decode = _ from fails.decode_eq]
  | succeeded told =>
    rw [Response.decode_state_iff.mpr told]
    rfl
  | failed told hpending hsucceeded hcode hreason =>
    rw [Response.decode_state_iff.mpr told]
    simp only [hpending, hsucceeded, if_false, failure, failureCode_iff.mp hcode,
      Response.reason_iff.mp hreason]
  | failedBare told hpending hsucceeded =>
    rw [Response.decode_state_iff.mpr told]
    simp only [hpending, hsucceeded, if_false, failure]
  | late told htime =>
    rw [Response.decode_state_iff.mpr told]
    simp only [if_true, htime]

theorem Verdict.unique {a b : Except Error Json} (ha : w.Verdict elapsed r a)
    (hb : w.Verdict elapsed r b) : a = b :=
  Option.some.inj ((judge_eq_some_iff.mpr ha).symm.trans (judge_eq_some_iff.mpr hb))

section

open Finset

variable (w) (answers : Answers)

/-- When the answer to look `k` is in, counted from the beginning of the wait. -/
def readyAt (k : Nat) : Nat := ∑ i ∈ range (k + 1), answers.delay i + k * w.interval

/-- A wait does not look again after the answer to look `k`. -/
def Stops (k : Nat) : Prop := ¬ Pending (answers.response k) ∨ w.timeout ≤ w.readyAt answers k

def look (k : Nat) : Turn := ⟨w.request, answers.delay k, answers.response k⟩

variable {w answers}

theorem readyAt_zero : w.readyAt answers 0 = answers.delay 0 := by
  simp [readyAt]

theorem readyAt_succ (k : Nat) :
    w.readyAt answers (k + 1) = w.readyAt answers k + w.interval + answers.delay (k + 1) := by
  rw [readyAt, readyAt, sum_range_succ _ (k + 1), Nat.add_mul, Nat.one_mul]
  omega

theorem not_stops_iff {k : Nat} : ¬ w.Stops answers k ↔
    w.judge (w.readyAt answers k) (answers.response k) = none := by
  rw [judge_eq_none_iff, Stops, not_or, not_not, Nat.not_le]

theorem exists_verdict {k : Nat} (h : w.Stops answers k) :
    ∃ result, w.Verdict (w.readyAt answers k) (answers.response k) result := by
  cases hj : w.judge (w.readyAt answers k) (answers.response k) with
  | none => exact absurd h (not_stops_iff.mpr hj)
  | some result => exact ⟨result, judge_eq_some_iff.mp hj⟩

/-- A wait has stopped once the pauses alone use up its time. -/
theorem stops_ceilDiv (h : 0 < w.interval) : w.Stops answers (w.timeout ⌈/⌉ w.interval) := by
  have htime : w.timeout ≤ w.timeout ⌈/⌉ w.interval * w.interval := by
    rw [Nat.mul_comm]
    exact le_smul_ceilDiv h
  right
  rw [readyAt]
  omega

theorem exists_least_stop (h : 0 < w.interval) :
    ∃ k, IsLeast {k | w.Stops answers k} k ∧ k ≤ w.timeout ⌈/⌉ w.interval := by
  classical
  have hex : ∃ k, w.Stops answers k := ⟨_, stops_ceilDiv h⟩
  exact ⟨Nat.find hex, ⟨Nat.find_spec hex, fun j hj => Nat.find_min' hex hj⟩,
    Nat.find_min' hex (stops_ceilDiv h)⟩

variable {i k started now last : Nat} {looks : List Turn} {result outcome : Except Error Json}

theorem run_given_stop_iff
    (h : w.judge (now + answers.delay i - started) (answers.response i) = some result) :
    w.Run started now looks outcome last ∧ answers.Given i looks ↔
      looks = [w.look answers i] ∧ outcome = result ∧ last = now + answers.delay i := by
  constructor
  · rintro ⟨hrun, hgiven⟩
    cases hrun with
    | decided hjudge =>
      obtain ⟨⟨rfl, rfl⟩, -⟩ := Answers.given_cons_iff.mp hgiven
      rw [h] at hjudge
      cases hjudge
      exact ⟨rfl, rfl, rfl⟩
    | pending hjudge rest =>
      obtain ⟨⟨rfl, rfl⟩, -⟩ := Answers.given_cons_iff.mp hgiven
      rw [h] at hjudge
      cases hjudge
  · rintro ⟨rfl, rfl, rfl⟩
    exact ⟨.decided h, Answers.given_cons_iff.mpr ⟨⟨rfl, rfl⟩, Answers.given_nil _ _⟩⟩

theorem run_given_pending_iff
    (h : w.judge (now + answers.delay i - started) (answers.response i) = none) :
    w.Run started now looks outcome last ∧ answers.Given i looks ↔
      ∃ rest, looks = w.look answers i :: rest ∧
        w.Run started (now + answers.delay i + w.interval) rest outcome last ∧
          answers.Given (i + 1) rest := by
  constructor
  · rintro ⟨hrun, hgiven⟩
    cases hrun with
    | decided hjudge =>
      obtain ⟨⟨rfl, rfl⟩, -⟩ := Answers.given_cons_iff.mp hgiven
      rw [h] at hjudge
      cases hjudge
    | pending hjudge rest =>
      obtain ⟨⟨rfl, rfl⟩, hrest⟩ := Answers.given_cons_iff.mp hgiven
      exact ⟨_, rfl, rest, hrest⟩
  · rintro ⟨rest, rfl, hrun, hgiven⟩
    exact ⟨.pending h hrun, Answers.given_cons_iff.mpr ⟨⟨rfl, rfl⟩, hgiven⟩⟩

/-- Given the answers, a wait that is about to look for the `i`-th time takes the looks up to the first
that stops it, and nothing else can come of it. -/
theorem run_given_iff (hik : i ≤ k) (hgoing : ∀ j < k, ¬ w.Stops answers j)
    (hverdict : w.Verdict (w.readyAt answers k) (answers.response k) result)
    (hnow : now + answers.delay i = started + w.readyAt answers i) :
    w.Run started now looks outcome last ∧ answers.Given i looks ↔
      looks = (List.range' i (k + 1 - i)).map (w.look answers) ∧ outcome = result ∧
        last = started + w.readyAt answers k := by
  have helapsed : now + answers.delay i - started = w.readyAt answers i := by omega
  obtain ⟨n, hn⟩ : ∃ n, k - i = n := ⟨_, rfl⟩
  induction n generalizing i now looks with
  | zero =>
    have hlast : i = k := by omega
    subst hlast
    have hone : i + 1 - i = 1 := by omega
    have hjudge := judge_eq_some_iff.mpr hverdict
    rw [← helapsed] at hjudge
    rw [run_given_stop_iff hjudge, hone, hnow]
    rfl
  | succ n ih =>
    have hlt : i < k := by omega
    have hjudge := not_stops_iff.mp (hgoing i hlt)
    have hsplit : k + 1 - i = k + 1 - (i + 1) + 1 := by omega
    have hnext : now + answers.delay i + w.interval + answers.delay (i + 1) =
        started + w.readyAt answers (i + 1) := by
      rw [readyAt_succ]
      omega
    have hrest {rest : List Turn} :
        w.Run started (now + answers.delay i + w.interval) rest outcome last ∧
            answers.Given (i + 1) rest ↔ _ :=
      ih (show i + 1 ≤ k by omega) hnext (by omega) (by omega)
    rw [← helapsed] at hjudge
    rw [run_given_pending_iff hjudge, hsplit, List.range'_succ, List.map_cons]
    constructor
    · rintro ⟨rest, rfl, hrun⟩
      obtain ⟨rfl, hend⟩ := hrest.mp hrun
      exact ⟨rfl, hend⟩
    · rintro ⟨rfl, hend⟩
      exact ⟨_, rfl, hrest.mpr ⟨rfl, hend⟩⟩

end
end JobWait

namespace Network

/-- A network after some requests to one address. -/
def after (n : Network) (url : String) : Nat → Network
  | 0 => n
  | i + 1 => ((n.after url i).respond url).network

/-- How a network answers requests to one address. -/
def answers (n : Network) (url : String) : Answers := fun i =>
  (((n.after url i).respond url).delay, ((n.after url i).respond url).response)

variable {w : JobWait} {n : Network} {i k started now : Nat} {result : Except Error Json}

theorem holdOn_receive (a : Except Error Json) (now : Nat) (n : Network) :
    holdOn now (.receive (.done a)) n = (a, now, n) := by
  rw [holdOn]
  rfl

theorem wake_look_some
    (h : w.judge (now + (n.respond w.url).delay - started) (n.respond w.url).response = some result) :
    wake now n (.look w started .done) =
      if (n.respond w.url).delay = 0 then (.finished result, (n.respond w.url).network)
      else (.paused (now + (n.respond w.url).delay) (.receive (.done result)),
        (n.respond w.url).network) := by
  rw [wake]
  unfold look
  rw [h]
  rfl

/-- A look that decides ends the wait after the delay of its response. -/
theorem holdOn_look_some
    (h : w.judge (now + (n.respond w.url).delay - started) (n.respond w.url).response = some result) :
    holdOn now (.look w started .done) n =
      (result, now + (n.respond w.url).delay, (n.respond w.url).network) := by
  rw [holdOn, wake_look_some h]
  by_cases hdelay : (n.respond w.url).delay = 0
  · rw [if_pos hdelay, hdelay]
    rfl
  · rw [if_neg hdelay]
    exact holdOn_receive _ _ _

theorem holdOn_look_none
    (h : w.judge (now + (n.respond w.url).delay - started) (n.respond w.url).response = none) :
    holdOn now (.look w started .done) n =
      holdOn (now + (n.respond w.url).delay + w.interval) (.look w started .done)
        (n.respond w.url).network := by
  have hwake : wake now n (.look w started .done) =
      (.paused (now + (n.respond w.url).delay + w.interval) (.look w started .done),
        (n.respond w.url).network) := by
    rw [wake]
    unfold look
    rw [h]
  rw [holdOn, hwake]

/-- Over a network, a wait that is about to look for the `i`-th time goes on to the first look that stops
it. -/
theorem holdOn_look (hik : i ≤ k) (hgoing : ∀ j < k, ¬ w.Stops (n.answers w.url) j)
    (hverdict : w.Verdict (w.readyAt (n.answers w.url) k) ((n.answers w.url).response k) result)
    (hnow : now + (n.answers w.url).delay i = started + w.readyAt (n.answers w.url) i) :
    holdOn now (.look w started .done) (n.after w.url i) =
      (result, started + w.readyAt (n.answers w.url) k, n.after w.url (k + 1)) := by
  have helapsed : now + (n.answers w.url).delay i - started = w.readyAt (n.answers w.url) i := by omega
  obtain ⟨m, hm⟩ : ∃ m, k - i = m := ⟨_, rfl⟩
  induction m generalizing i now with
  | zero =>
    have hlast : i = k := by omega
    subst hlast
    have hjudge := JobWait.judge_eq_some_iff.mpr hverdict
    rw [← helapsed] at hjudge
    rw [holdOn_look_some hjudge, ← hnow]
    rfl
  | succ m ih =>
    have hjudge := JobWait.not_stops_iff.mp (hgoing i (by omega))
    have hnext : now + (n.answers w.url).delay i + w.interval + (n.answers w.url).delay (i + 1) =
        started + w.readyAt (n.answers w.url) (i + 1) := by
      rw [JobWait.readyAt_succ]
      omega
    rw [← helapsed] at hjudge
    have hrest := ih (show i + 1 ≤ k by omega) hnext (by omega) (by omega)
    rw [holdOn_look_none hjudge]
    exact hrest

theorem hold_await (w : JobWait) (now : Nat) (n : Network) :
    hold (.await w .done) now n = holdOn now (.look w now .done) n := by
  have hwake : wake now n (.receive (.await w .done)) = wake now n (.look w now .done) := rfl
  rw [hold, holdOn, hwake]
  exact (holdOn.eq_def now (.look w now .done) n).symm

end Network

namespace Client

/-- Whatever is answered to the looks at a job, and however late, the wait for it ends with the first
answer that is not a well-formed pending one or comes when the time is up. It has looked once for every
answer up to that one, which alone decides what it comes to. -/
theorem waitForJob_settles (c : Client) (jobId : String) (now : Nat) (answers : Answers)
    (hinterval : 0 < c.pollInterval) :
    let query := TextMap.empty.insert "jobid" jobId
    let w : JobWait := ⟨jobId, ⟨"queryAsyncJobResult", query, c.signedUrl "queryAsyncJobResult" query⟩,
      c.asyncTimeout, c.pollInterval⟩
    (∀ key, query.get? key = if key = "jobid" then some jobId else none) ∧
    ∃ k result, IsLeast {k | w.Stops answers k} k ∧ k ≤ c.asyncTimeout ⌈/⌉ c.pollInterval ∧
      w.Verdict (w.readyAt answers k) (answers.response k) result ∧
      (∀ turns outcome last,
        (c.waitForJob jobId).Run now turns outcome last ∧ answers.Given 0 turns ↔
          turns = (List.range (k + 1)).map (w.look answers) ∧ outcome = result ∧
            last = now + w.readyAt answers k) ∧
      ∀ n : Network, n.answers w.url = answers → Network.hold (c.waitForJob jobId) now n =
        (result, now + w.readyAt answers k, n.after w.url (k + 1)) := by
  intro query w
  obtain ⟨k, hleast, hbound⟩ : ∃ k, IsLeast {k | w.Stops answers k} k ∧ _ :=
    JobWait.exists_least_stop hinterval
  obtain ⟨result, hverdict⟩ := JobWait.exists_verdict hleast.1
  have hgoing : ∀ j < k, ¬ w.Stops answers j := fun j hj hstop => Nat.not_le.mpr hj (hleast.2 hstop)
  have hstart : now + answers.delay 0 = now + w.readyAt answers 0 := by
    rw [JobWait.readyAt_zero]
  have hquery (key : String) : query.get? key = if key = "jobid" then some jobId else none := by
    rw [TextMap.get?_insert, TextMap.get?_empty]
  refine ⟨hquery, k, result, hleast, hbound, hverdict, ?_, ?_⟩
  · intro turns outcome last
    have hruns : w.Run now now turns outcome last ∧ answers.Given 0 turns ↔ _ :=
      JobWait.run_given_iff (Nat.zero_le k) hgoing hverdict hstart
    rw [waitForJob_run_iff, List.range_eq_range']
    exact hruns
  · rintro n rfl
    have hhold := Network.holdOn_look (Nat.zero_le k) hgoing hverdict hstart
    rw [Network.after, ← Network.hold_await] at hhold
    exact hhold

/-- A reply that tells of a job by these members. -/
def jobReply (members : String) : Response :=
  .received 200 ("\x7b\"queryasyncjobresultresponse\":\x7b" ++ members ++ "\x7d\x7d")

def stillPending : Response := jobReply "\"jobid\":\"j1\",\"jobstatus\":0"

def succeededJob : Response := jobReply "\"jobstatus\":1,\"jobresult\":\x7b\"id\":\"vm1\"\x7d"

/-- The error code of this failed job has more than 16 bits. -/
def failedJob : Response := jobReply
  "\"jobstatus\":2,\"jobresult\":\x7b\"errorcode\":65966,\"errortext\":\"no capacity\"\x7d"

theorem stillPending_tells : stillPending.Tells 0 none := by
  have hdecode : stillPending.decode JobWait.command JobState.decode = .ok ⟨0, none⟩ := by
    with_unfolding_all rfl
  exact Response.decode_state_iff.mp hdecode

theorem succeededJob_tells : succeededJob.Tells 1 (some (.obj [("id", .str "vm1")])) := by
  have hdecode : succeededJob.decode JobWait.command JobState.decode =
      .ok ⟨1, some (.obj [("id", .str "vm1")])⟩ := by
    with_unfolding_all rfl
  exact Response.decode_state_iff.mp hdecode

theorem failedJob_tells : failedJob.Tells 2 (some (.obj [("errorcode", .num (.int 65966)),
    ("errortext", .str "no capacity")])) := by
  have hdecode : failedJob.decode JobWait.command JobState.decode =
      .ok ⟨2, some (.obj [("errorcode", .num (.int 65966)), ("errortext", .str "no capacity")])⟩ := by
    with_unfolding_all rfl
  exact Response.decode_state_iff.mp hdecode

/-- A job is pending at first, and this is answered from then on; each answer takes a tenth of a second. -/
def answeredBy (r : Response) : Answers := fun i => (100000000, if i = 0 then stillPending else r)

def lookAnswered (r : Response) : Turn :=
  let query := TextMap.empty.insert "jobid" "j1"
  ⟨⟨"queryAsyncJobResult", query, nearby.signedUrl "queryAsyncJobResult" query⟩, 100000000, r⟩

theorem readyAt_answeredBy (r : Response) (i : Nat) :
    (nearby.jobWait "j1").readyAt (answeredBy r) i = (i + 1) * 100000000 + i * 300000000 := by
  have hdelay (j : Nat) : (answeredBy r).delay j = 100000000 := rfl
  simp only [JobWait.readyAt, hdelay, Finset.sum_const, Finset.card_range, smul_eq_mul]
  rfl

/-- A job that succeeds or fails is seen to do so at the second look. -/
theorem least_stop_of_tells {r : Response} {status : UInt8} {result : Option Json}
    (h : r.Tells status result) (hstatus : status ≠ 0) :
    IsLeast {k | (nearby.jobWait "j1").Stops (answeredBy r) k} 1 := by
  have hended : ¬ JobWait.Pending r := by
    rintro ⟨result', hpending⟩
    exact hstatus (hpending.unique h).1
  refine ⟨.inl hended, fun k hk => Nat.one_le_iff_ne_zero.mpr ?_⟩
  rintro rfl
  rcases hk with hanswer | htime
  · exact hanswer ⟨none, stillPending_tells⟩
  · rw [readyAt_answeredBy] at htime
    exact absurd htime (by decide)

/-- A job that is always pending is given up with the fourth answer. -/
theorem least_stop_of_pending :
    IsLeast {k | (nearby.jobWait "j1").Stops (answeredBy stillPending) k} 3 := by
  refine ⟨.inr ?_, fun k hk => ?_⟩
  · rw [readyAt_answeredBy]
    decide
  · have hpending : JobWait.Pending ((answeredBy stillPending).response k) := by
      refine ⟨none, ?_⟩
      change (if k = 0 then stillPending else stillPending).Tells 0 none
      rw [ite_self]
      exact stillPending_tells
    have htime := hk.resolve_left (not_not.mpr hpending)
    rw [readyAt_answeredBy] at htime
    change 1000000000 ≤ _ at htime
    omega

theorem waitForJob_settles_as_answered :
    0 < nearby.pollInterval ∧
    (∀ turns outcome last, (nearby.waitForJob "j1").Run 0 turns outcome last ∧
        (answeredBy stillPending).Given 0 turns ↔
      turns = List.replicate 4 (lookAnswered stillPending) ∧
        outcome = .error (.asyncJob "timeout while waiting for async job j1 to finish") ∧
          last = 1300000000) ∧
    (∀ turns outcome last, (nearby.waitForJob "j1").Run 0 turns outcome last ∧
        (answeredBy succeededJob).Given 0 turns ↔
      turns = [lookAnswered stillPending, lookAnswered succeededJob] ∧
        outcome = .ok (.obj [("id", .str "vm1")]) ∧ last = 500000000) ∧
    ∀ turns outcome last, (nearby.waitForJob "j1").Run 0 turns outcome last ∧
        (answeredBy failedJob).Given 0 turns ↔
      turns = [lookAnswered stillPending, lookAnswered failedJob] ∧
        outcome = .error (.api 530 "no capacity") ∧ last = 500000000 := by
  let w := nearby.jobWait "j1"
  have hinterval : 0 < nearby.pollInterval := by decide
  have hruns {r : Response} {k : Nat} {result : Except Error Json}
      (hk : IsLeast {k | w.Stops (answeredBy r) k} k)
      (hresult : w.Verdict (w.readyAt (answeredBy r) k) ((answeredBy r).response k) result)
      (turns : List Turn) (outcome : Except Error Json) (last : Nat) :
      (nearby.waitForJob "j1").Run 0 turns outcome last ∧ (answeredBy r).Given 0 turns ↔
        turns = (List.range (k + 1)).map (w.look (answeredBy r)) ∧ outcome = result ∧
          last = 0 + w.readyAt (answeredBy r) k := by
    obtain ⟨-, k', result', hleast, -, hverdict, hiff, -⟩ :=
      waitForJob_settles nearby "j1" 0 (answeredBy r) hinterval
    obtain rfl := hleast.unique hk
    obtain rfl := hverdict.unique hresult
    exact hiff turns outcome last
  refine ⟨hinterval, fun turns outcome last => ?_, fun turns outcome last => ?_,
    fun turns outcome last => ?_⟩
  · rw [hruns least_stop_of_pending (.late stillPending_tells (by rw [readyAt_answeredBy]; decide)),
      readyAt_answeredBy]
    rfl
  · rw [hruns (least_stop_of_tells succeededJob_tells (by decide)) (.succeeded succeededJob_tells),
      readyAt_answeredBy]
    rfl
  · have hcode : JobWait.FailureCode (.obj [("errorcode", .num (.int 65966)),
        ("errortext", .str "no capacity")]) 530 := by
      refine .inr ⟨fun n hcoded => ?_, rfl⟩
      obtain ⟨hget, -⟩ := hcoded
      cases hget
      decide
    rw [hruns (least_stop_of_tells failedJob_tells (by decide))
      (.failed failedJob_tells (by decide) (by decide) hcode (.inl rfl)), readyAt_answeredBy]
    rfl

end Client
end NodeGroups
