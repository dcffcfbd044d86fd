import Mathlib.Algebra.BigOperators.Fin
import Mathlib.Data.Fintype.Basic
import Mangos.Framework.Run

/-!
# Worker threads and the update round

`ObjectUpdateTaskBase`: the caller schedules update requests and then waits in `queue_wait` for the worker
threads, which take the requests out of a shared queue.
-/

namespace Mangos

open Framework

/-- How far a worker has come in `svc`. It has read its own entry of the threads map in `beginning` and
`ending`, and is about to write it. -/
inductive Worker
  | ready
  | taken (rq : Nat)
  | beginning (rq : Nat) (oldrq : Option Nat)
  | running (rq : Nat)
  | called (rq : Nat)
  | ending (rq : Nat) (oldrq : Option Nat)
  | finished (rq : Nat)
  deriving DecidableEq, Repr

/-- How far the caller has come in `queue_wait`. `testThreads`, `testQueue` and `testActive` are the three
parts of the condition of its loop. -/
inductive Caller
  | outside
  | testThreads
  | testQueue
  | testActive
  | waiting
  | leaving
  | returned
  deriving DecidableEq, Repr

namespace Worker

def holds : Worker → Option Nat
  | taken rq | beginning rq _ | running rq => some rq
  | _ => none

def marked : Worker → Option Nat
  | running rq | called rq | ending rq _ => some rq
  | _ => none

def isUnmarked : Worker → Bool
  | taken _ | beginning _ _ => true
  | _ => false

def ReadOwn : Worker → Prop
  | beginning _ oldrq => oldrq = none
  | ending rq oldrq => oldrq = some rq
  | _ => True

theorem holds_eq_none {w : Worker} (hmarked : w.marked = none) (htaken : w.isUnmarked = false) : w.holds = none := by
  cases w <;> simp [holds, marked, isUnmarked] at *

end Worker

/-- `n` worker threads are activated. Requests are numbered as they are scheduled; `log` has those whose
`call` has returned and is not in the code. -/
structure ObjectUpdateTaskBase (n : Nat) where
  queue : List Nat := []
  threadsMap : Fin n → Option Nat := fun _ => none
  currentActiveThreadsCount : Nat := 0
  round : Bool := false
  workers : Fin n → Worker := fun _ => .ready
  caller : Caller := .outside
  scheduled : Nat := 0
  log : List Nat := []

namespace ObjectUpdateTaskBase

variable {n : Nat} (s : ObjectUpdateTaskBase n)

def setWorker (i : Fin n) (w : Worker) : ObjectUpdateTaskBase n :=
  { s with workers := Function.update s.workers i w }

/-- The part of `setThreadInfo` that runs under the write lock. -/
def setThreadInfo (i : Fin n) (oldrq rq : Option Nat) : ObjectUpdateTaskBase n :=
  { s with
    currentActiveThreadsCount :=
      if rq.isSome ∧ oldrq = none then s.currentActiveThreadsCount + 1
      else if rq = none ∧ oldrq.isSome then s.currentActiveThreadsCount - 1
      else s.currentActiveThreadsCount
    threadsMap := Function.update s.threadsMap i rq }

/-- `dequeue` blocks while the queue is empty. -/
def dequeue (i : Fin n) : ObjectUpdateTaskBase n :=
  match s.queue with
  | [] => s
  | rq :: queue => { s with queue := queue }.setWorker i (.taken rq)

def svc (i : Fin n) : ObjectUpdateTaskBase n :=
  match s.workers i with
  | .ready => s.dequeue i
  | .taken rq => s.setWorker i (.beginning rq (s.threadsMap i))
  | .beginning rq oldrq => (s.setThreadInfo i oldrq (some rq)).setWorker i (.running rq)
  | .running rq => { s with log := s.log ++ [rq] }.setWorker i (.called rq)
  | .called rq => s.setWorker i (.ending rq (s.threadsMap i))
  | .ending rq oldrq => (s.setThreadInfo i oldrq none).setWorker i (.finished rq)
  | .finished _ => s.setWorker i .ready

/-- `schedule_update`, when the queue has room. -/
def scheduleUpdate : ObjectUpdateTaskBase n :=
  if s.caller = .outside ∧ s.round = false then
    { s with queue := s.queue ++ [s.scheduled], scheduled := s.scheduled + 1 }
  else s

/-- The caller enters `queue_wait`. -/
def startWait : ObjectUpdateTaskBase n :=
  if s.caller = .outside ∧ s.round = false then { s with round := true, caller := .testThreads } else s

/-- One atomic step of the caller in `queue_wait`. A wait ends with a wake-up, whether or not anything has
changed. -/
def queueWait : ObjectUpdateTaskBase n :=
  match s.caller with
  | .outside => s
  | .testThreads => { s with caller := if 0 < n then .testQueue else .leaving }
  | .testQueue => { s with caller := if s.queue = [] then .testActive else .waiting }
  | .testActive => { s with caller := if 0 < s.currentActiveThreadsCount then .waiting else .leaving }
  | .waiting => { s with caller := .testThreads }
  | .leaving => { s with caller := .returned, round := false }
  | .returned => { s with caller := .outside }

inductive Event (n : Nat)
  | scheduleUpdate
  | startWait
  | queueWait
  | svc (i : Fin n)
  deriving DecidableEq, Repr

def step : Event n → ObjectUpdateTaskBase n
  | .scheduleUpdate => s.scheduleUpdate
  | .startWait => s.startWait
  | .queueWait => s.queueWait
  | .svc i => s.svc i

/-- Where `queue_wait` has just returned, each request that was scheduled has been called once. -/
def RoundDone : Prop := s.caller = .returned → ∀ rq < s.scheduled, s.log.count rq = 1

/-- When the caller finds no active worker, no worker has a request that it is not marked with; without
workers nothing may be queued. -/
def SeesWorkers : Event n → Prop
  | .queueWait =>
    (s.caller = .testThreads → n = 0 → s.queue = []) ∧
      (s.caller = .testActive → s.currentActiveThreadsCount = 0 → ∀ i, (s.workers i).isUnmarked = false)
  | _ => True

instance : ∀ (s : ObjectUpdateTaskBase n) (e : Event n), Decidable (s.SeesWorkers e) := by
  intro s e
  cases e <;> unfold SeesWorkers <;> infer_instance

def held (workers : Fin n → Worker) (rq : Nat) : Nat :=
  ∑ i, if (workers i).holds = some rq then 1 else 0

def marks (workers : Fin n → Worker) : Nat := ∑ i, if (workers i).marked.isSome then 1 else 0

/-- Each request is in one place: in the queue, with one worker, or in the log. The threads map and the
count of active workers follow the workers' marks. -/
structure Sound : Prop where
  place : ∀ rq, s.queue.count rq + held s.workers rq + s.log.count rq = if rq < s.scheduled then 1 else 0
  entry : ∀ i, s.threadsMap i = (s.workers i).marked
  own : ∀ i, (s.workers i).ReadOwn
  active : s.currentActiveThreadsCount = marks s.workers

variable {s}

theorem sum_update (f : Worker → Nat) (workers : Fin n → Worker) (i : Fin n) (w : Worker) :
    (∑ j, f (Function.update workers i w j)) + f (workers i) = (∑ j, f (workers j)) + f w := by
  have hother : ∀ j ∈ Finset.univ.erase i, f (Function.update workers i w j) = f (workers j) := by
    intro j hj
    rw [Function.update_of_ne (Finset.ne_of_mem_erase hj)]
  rw [← Finset.add_sum_erase _ _ (Finset.mem_univ i),
    ← Finset.add_sum_erase _ (fun j => f (workers j)) (Finset.mem_univ i),
    Finset.sum_congr rfl hother, Function.update_self]
  omega

theorem held_update {workers : Fin n → Worker} {i : Fin n} {w : Worker} (rq : Nat) :
    held (Function.update workers i w) rq + (if (workers i).holds = some rq then 1 else 0) =
      held workers rq + if w.holds = some rq then 1 else 0 :=
  sum_update (fun w => if w.holds = some rq then 1 else 0) workers i w

theorem held_update_of_eq {workers : Fin n → Worker} {i : Fin n} {w : Worker}
    (h : w.holds = (workers i).holds) : held (Function.update workers i w) = held workers := by
  funext rq
  have hsum := @held_update n workers i w rq
  rw [h] at hsum
  exact Nat.add_right_cancel hsum

theorem marks_update {workers : Fin n → Worker} {i : Fin n} {w : Worker} :
    marks (Function.update workers i w) + (if (workers i).marked.isSome then 1 else 0) =
      marks workers + if w.marked.isSome then 1 else 0 :=
  sum_update (fun w => if w.marked.isSome then 1 else 0) workers i w

theorem marks_update_of_eq {workers : Fin n → Worker} {i : Fin n} {w : Worker}
    (h : w.marked = (workers i).marked) : marks (Function.update workers i w) = marks workers := by
  have hsum := @marks_update n workers i w
  rw [h] at hsum
  exact Nat.add_right_cancel hsum

theorem Sound.move {s' : ObjectUpdateTaskBase n} (h : s.Sound) (hworkers : s'.workers = s.workers)
    (hmap : s'.threadsMap = s.threadsMap)
    (hactive : s'.currentActiveThreadsCount = s.currentActiveThreadsCount) {i : Fin n} {w : Worker}
    (hmarked : w.marked = (s.workers i).marked) (hown : w.ReadOwn)
    (hplace : ∀ rq, s'.queue.count rq + held (Function.update s.workers i w) rq + s'.log.count rq =
      if rq < s'.scheduled then 1 else 0) : (s'.setWorker i w).Sound where
  place rq := by
    simp only [ObjectUpdateTaskBase.setWorker, hworkers]
    exact hplace rq
  entry j := by
    by_cases hj : j = i
    · subst hj
      simp [ObjectUpdateTaskBase.setWorker, hmarked, hmap, h.entry]
    · simp [ObjectUpdateTaskBase.setWorker, hj, hmap, hworkers, h.entry]
  own j := by
    by_cases hj : j = i
    · subst hj
      simpa [ObjectUpdateTaskBase.setWorker] using hown
    · simpa [ObjectUpdateTaskBase.setWorker, hj, hworkers] using h.own j
  active := by
    simp only [ObjectUpdateTaskBase.setWorker, hworkers, marks_update_of_eq hmarked]
    exact hactive.trans h.active

theorem Sound.setWorker (h : s.Sound) {i : Fin n} {w : Worker} (hholds : w.holds = (s.workers i).holds)
    (hmarked : w.marked = (s.workers i).marked) (hown : w.ReadOwn) : (s.setWorker i w).Sound := by
  apply h.move rfl rfl rfl hmarked hown
  rw [held_update_of_eq hholds]
  exact h.place

theorem Sound.dequeue (h : s.Sound) {i : Fin n} (hready : s.workers i = .ready) : (s.dequeue i).Sound := by
  unfold ObjectUpdateTaskBase.dequeue
  split
  next => exact h
  next rq queue hqueue =>
    apply Sound.move h
    case hplace =>
      intro g
      have hplace := h.place g
      have hheld := @held_update n s.workers i (.taken rq) g
      simp only [hready, Worker.holds, reduceCtorEq, if_false, Option.some.injEq] at hheld
      simp only [hqueue, List.count_cons, beq_iff_eq] at hplace
      dsimp only
      omega
    all_goals simp [hready, Worker.marked, Worker.ReadOwn]

theorem Sound.call (h : s.Sound) {i : Fin n} {rq : Nat} (hrunning : s.workers i = .running rq) :
    ({ s with log := s.log ++ [rq] }.setWorker i (.called rq)).Sound := by
  apply Sound.move h
  case hplace =>
    intro g
    have hplace := h.place g
    have hheld := @held_update n s.workers i (.called rq) g
    simp only [hrunning, Worker.holds, reduceCtorEq, if_false, Option.some.injEq] at hheld
    simp only [List.count_append, List.count_singleton, beq_iff_eq]
    omega
  all_goals simp [hrunning, Worker.marked, Worker.ReadOwn]

theorem Sound.setThreadInfo (h : s.Sound) {i : Fin n} {rq : Option Nat} {w : Worker}
    (hholds : w.holds = (s.workers i).holds) (hmarked : w.marked = rq) (hown : w.ReadOwn) :
    ((s.setThreadInfo i (s.workers i).marked rq).setWorker i w).Sound where
  place g := by
    simp only [ObjectUpdateTaskBase.setWorker, ObjectUpdateTaskBase.setThreadInfo, held_update_of_eq hholds]
    exact h.place g
  entry j := by
    by_cases hj : j = i
    · subst hj
      simp [ObjectUpdateTaskBase.setWorker, ObjectUpdateTaskBase.setThreadInfo, hmarked]
    · simp [ObjectUpdateTaskBase.setWorker, ObjectUpdateTaskBase.setThreadInfo, hj, h.entry]
  own j := by
    by_cases hj : j = i
    · subst hj
      simpa [ObjectUpdateTaskBase.setWorker, ObjectUpdateTaskBase.setThreadInfo] using hown
    · simpa [ObjectUpdateTaskBase.setWorker, ObjectUpdateTaskBase.setThreadInfo, hj] using h.own j
  active := by
    have hmarks := @marks_update n s.workers i w
    rw [hmarked] at hmarks
    simp only [ObjectUpdateTaskBase.setWorker, ObjectUpdateTaskBase.setThreadInfo, h.active]
    cases hold : (s.workers i).marked <;> cases hnew : rq <;>
      simp only [hold, hnew, Option.isSome_none, Option.isSome_some, Bool.false_eq_true, if_false,
        if_true, reduceCtorEq, and_true, and_false] at hmarks ⊢ <;> omega

theorem Sound.svc (h : s.Sound) (i : Fin n) : (s.svc i).Sound := by
  have hown := h.own i
  have hentry := h.entry i
  unfold ObjectUpdateTaskBase.svc
  split
  next hw => exact h.dequeue hw
  next rq hw =>
    apply h.setWorker <;> simp [hw, hentry, Worker.holds, Worker.marked, Worker.ReadOwn]
  next rq oldrq hw =>
    have hold : oldrq = (s.workers i).marked := by simpa [hw, Worker.ReadOwn, Worker.marked] using hown
    rw [hold]
    apply h.setThreadInfo <;> simp [hw, Worker.holds, Worker.marked, Worker.ReadOwn]
  next hw => exact h.call hw
  next rq hw =>
    apply h.setWorker <;> simp [hw, hentry, Worker.holds, Worker.marked, Worker.ReadOwn]
  next rq oldrq hw =>
    have hold : oldrq = (s.workers i).marked := by simpa [hw, Worker.ReadOwn, Worker.marked] using hown
    rw [hold]
    apply h.setThreadInfo <;> simp [hw, Worker.holds, Worker.marked, Worker.ReadOwn]
  next rq hw =>
    apply h.setWorker <;> simp [hw, Worker.holds, Worker.marked, Worker.ReadOwn]

theorem Sound.scheduleUpdate (h : s.Sound) : s.scheduleUpdate.Sound := by
  unfold ObjectUpdateTaskBase.scheduleUpdate
  split
  next =>
    refine ⟨fun rq => ?_, h.entry, h.own, h.active⟩
    have hplace := h.place rq
    simp only [List.count_append, List.count_singleton, beq_iff_eq]
    split at hplace <;> split <;> split <;> omega
  next => exact h

theorem Sound.startWait (h : s.Sound) : s.startWait.Sound := by
  unfold ObjectUpdateTaskBase.startWait
  split
  · exact ⟨h.place, h.entry, h.own, h.active⟩
  · exact h

theorem Sound.queueWait (h : s.Sound) : s.queueWait.Sound := by
  unfold ObjectUpdateTaskBase.queueWait
  split <;> exact ⟨h.place, h.entry, h.own, h.active⟩

theorem Sound.step (h : s.Sound) (e : Event n) : (s.step e).Sound := by
  cases e with
  | scheduleUpdate => exact h.scheduleUpdate
  | startWait => exact h.startWait
  | queueWait => exact h.queueWait
  | svc i => exact h.svc i

theorem sound_start : ({} : ObjectUpdateTaskBase n).Sound where
  place rq := by simp [held, Worker.holds]
  entry i := rfl
  own i := trivial
  active := by simp [marks, Worker.marked]

/-- No request is in the queue or with a worker. -/
structure AllCalled (s : ObjectUpdateTaskBase n) : Prop where
  queue : s.queue = []
  workers : ∀ i, (s.workers i).holds = none

/-- What the caller has found out so far is still true. -/
structure Known (s : ObjectUpdateTaskBase n) : Prop where
  queue : s.caller = .testActive → s.queue = []
  done : s.caller = .leaving ∨ s.caller = .returned → s.AllCalled

theorem AllCalled.svc (h : s.AllCalled) (i : Fin n) : (s.svc i).AllCalled := by
  have hnone := h.workers i
  have hset : ∀ (s' : ObjectUpdateTaskBase n) (w : Worker), s'.queue = [] → s'.workers = s.workers →
      w.holds = none → (s'.setWorker i w).AllCalled := by
    intro s' w hqueue hworkers hw
    refine ⟨hqueue, fun j => ?_⟩
    by_cases hj : j = i
    · subst hj
      simpa [setWorker] using hw
    · simpa [setWorker, hj, hworkers] using h.workers j
  unfold ObjectUpdateTaskBase.svc
  split
  next => simpa [dequeue, h.queue] using h
  next hw => simp [hw, Worker.holds] at hnone
  next hw => simp [hw, Worker.holds] at hnone
  next hw => simp [hw, Worker.holds] at hnone
  all_goals exact hset _ _ h.queue rfl rfl

theorem queue_svc_of_nil (h : s.queue = []) (i : Fin n) : (s.svc i).queue = [] := by
  unfold ObjectUpdateTaskBase.svc
  split <;> simp [dequeue, setWorker, setThreadInfo, h]

theorem caller_svc (i : Fin n) : (s.svc i).caller = s.caller := by
  unfold ObjectUpdateTaskBase.svc dequeue
  split <;> first | rfl | (split <;> rfl)

theorem marks_eq_zero {workers : Fin n → Worker} (h : marks workers = 0) (i : Fin n) : (workers i).marked = none := by
  have hi := Finset.sum_eq_zero_iff.mp h i (Finset.mem_univ i)
  by_contra hsome
  simp [Option.isSome_iff_ne_none, hsome] at hi

theorem Known.step (h : s.Known) (hsound : s.Sound) {e : Event n} (he : s.SeesWorkers e) : (s.step e).Known := by
  cases e with
  | svc i =>
    refine ⟨fun hc => ?_, fun hc => ?_⟩
    · rw [ObjectUpdateTaskBase.step, caller_svc] at hc
      exact queue_svc_of_nil (h.queue hc) i
    · rw [ObjectUpdateTaskBase.step, caller_svc] at hc
      exact (h.done hc).svc i
  | scheduleUpdate =>
    unfold ObjectUpdateTaskBase.step ObjectUpdateTaskBase.scheduleUpdate
    simp only
    split
    next hout => exact ⟨by simp [hout.1], by simp [hout.1]⟩
    next => exact h
  | startWait =>
    unfold ObjectUpdateTaskBase.step ObjectUpdateTaskBase.startWait
    simp only
    split
    next => exact ⟨by simp, by simp⟩
    next => exact h
  | queueWait =>
    obtain ⟨hthreads, hactive⟩ := he
    unfold ObjectUpdateTaskBase.step ObjectUpdateTaskBase.queueWait
    simp only
    split
    next => exact h
    next hc =>
      by_cases hn : 0 < n
      · exact ⟨by simp [hn], by simp [hn]⟩
      · have hzero : n = 0 := by omega
        subst hzero
        exact ⟨by simp, fun _ => ⟨hthreads hc rfl, fun i => i.elim0⟩⟩
    next =>
      refine ⟨fun hc => ?_, fun hc => ?_⟩
      · by_contra hqueue
        simp [hqueue] at hc
      · split at hc <;> simp at hc
    next hc =>
      refine ⟨fun hc => ?_, fun hc' => ⟨h.queue hc, fun i => ?_⟩⟩
      · split at hc <;> simp at hc
      · have hzero : s.currentActiveThreadsCount = 0 := by
          by_contra hpos
          simp [Nat.pos_of_ne_zero hpos] at hc'
        exact Worker.holds_eq_none (marks_eq_zero (hsound.active.symm.trans hzero) i)
          (hactive hc hzero i)
    next => exact ⟨by simp, by simp⟩
    next hc =>
      have hdone := h.done (.inl hc)
      exact ⟨by simp, fun _ => ⟨hdone.queue, hdone.workers⟩⟩
    next => exact ⟨by simp, by simp⟩

theorem Sound.roundDone (h : s.Sound) (hknown : s.Known) : s.RoundDone := by
  intro hc rq hrq
  obtain ⟨hqueue, hworkers⟩ := hknown.done (.inr hc)
  have hplace := h.place rq
  have hheld : held s.workers rq = 0 := by simp [held, hworkers]
  simpa [hqueue, hheld, hrq] using hplace

/-- In every interleaving each request that was scheduled waits, is with one worker or has been called once, and no
other ever is; the count of active workers is that of the marked ones. -/
theorem accounted_run (n : Nat) (es : List (Event n)) (rq : Nat) :
    let s := run step ({} : ObjectUpdateTaskBase n) es
    (s.queue.count rq + held s.workers rq + s.log.count rq = if rq < s.scheduled then 1 else 0) ∧
      s.currentActiveThreadsCount = marks s.workers := by
  have hsound : (run step ({} : ObjectUpdateTaskBase n) es).Sound :=
    run_invariant (fun _ e _ h => h.step e) (guarded_of_forall (fun _ _ => trivial) _ es) sound_start
  exact ⟨hsound.place rq, hsound.active⟩

/-- In an interleaving in which the caller never overlooks a worker with a request, each `queue_wait`
returns when all requests scheduled so far have been called once. -/
theorem roundDone_run (n : Nat) (es : List (Event n))
    (hes : Guarded step SeesWorkers ({} : ObjectUpdateTaskBase n) es) :
    (run step ({} : ObjectUpdateTaskBase n) es).RoundDone := by
  have hrun : (run step ({} : ObjectUpdateTaskBase n) es).Sound ∧
      (run step ({} : ObjectUpdateTaskBase n) es).Known := by
    apply @run_invariant _ _ step SeesWorkers fun s => s.Sound ∧ s.Known
    · exact fun s e he hs => ⟨hs.1.step e, hs.2.step hs.1 he⟩
    · exact hes
    · exact ⟨sound_start, by simp, by simp⟩
  exact hrun.1.roundDone hrun.2

/-- One request, whose worker is marked before the caller asks for active workers. -/
def seenInTime : List (Event 1) :=
  [.scheduleUpdate, .svc 0, .svc 0, .svc 0, .startWait, .queueWait, .queueWait, .queueWait] ++
    [.svc 0, .svc 0, .svc 0, .svc 0] ++ List.replicate 5 .queueWait

theorem roundDone_run_seenInTime : (run step ({} : ObjectUpdateTaskBase 1) seenInTime).caller = .returned ∧
      (run step ({} : ObjectUpdateTaskBase 1) seenInTime).RoundDone :=
  ⟨by decide +kernel, roundDone_run 1 seenInTime (by decide +kernel)⟩

/-- The worker has taken the only request out of the queue and is not marked yet when the caller looks. -/
theorem not_always_roundDone :
    ¬ ∀ (n : Nat) (es : List (Event n)), (run step ({} : ObjectUpdateTaskBase n) es).RoundDone := by
  intro h
  have hdone := h 1 ([.scheduleUpdate, .svc 0, .startWait] ++ List.replicate 4 .queueWait)
  have hcount := hdone (by decide +kernel) 0 (by decide +kernel)
  exact absurd hcount (by decide +kernel)

end ObjectUpdateTaskBase

end Mangos
