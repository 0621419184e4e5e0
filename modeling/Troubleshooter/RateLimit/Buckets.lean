import Mathlib.Data.List.Induction
import Troubleshooter.Library.Windows
import Troubleshooter.RateLimit.FixedWindow

namespace Troubleshooter.RateLimit

open Troubleshooter.Library
open Troubleshooter.Library.Windows (Event Course Tracks)

namespace FixedWindow

-- A call of Allow, with what it has been answered and the start of the bucket of its key then.
structure Asked where
  key : String
  time : Go.Time
  start : Go.Time
  allowed : Bool
  deriving DecidableEq

def startOf (l : FixedWindow) (key : String) : Go.Time :=
  ((l.buckets.get? key).map Bucket.start).getD 0

def ask (run : List Asked × FixedWindow) (call : String × Go.Time) : List Asked × FixedWindow :=
  let answer := run.2.allow call.1 call.2
  (run.1 ++ [⟨call.1, call.2, answer.2.startOf call.1, answer.1⟩], answer.2)

-- The calls one after the other, with the limiter behind them.
def askAll (calls : List (String × Go.Time)) (l : FixedWindow) : List Asked × FixedWindow :=
  calls.foldl ask ([], l)

def Asked.event (asked : Asked) : Event := ⟨asked.time, asked.start, asked.allowed⟩

-- The calls of one key.
def eventsOf (key : String) (log : List Asked) : List Event :=
  (log.filter (·.key == key)).map Asked.event

section Allow

variable (key : String) (now : Go.Time) (l : FixedWindow)

-- Everything a call of Allow does where it is limited: it opens a bucket, it counts in the
-- one that is open, or it is denied and changes nothing.
theorem allow_cases (hlimit : 1 ≤ l.limit) (hkey : key ≠ "") :
    (((l.buckets.get? key).all fun bucket =>
          bucket.start == 0 || decide (l.window ≤ Go.Time.sub now bucket.start)) = true ∧
        l.allow key now = (true, { l with buckets := l.buckets.set key ⟨now, 1⟩ })) ∨
      ∃ bucket, l.buckets.get? key = some bucket ∧
        ((bucket.count < l.limit ∧ l.allow key now =
            (true, { l with buckets := l.buckets.set key ⟨bucket.start, bucket.count + 1⟩ })) ∨
          (l.limit ≤ bucket.count ∧ l.allow key now = (false, l))) := by
  have hlimited : ¬(l.limit ≤ 0 ∨ key = "") := by
    rintro (hnone | hempty)
    · omega
    · exact hkey hempty
  unfold allow
  rw [if_neg hlimited]
  dsimp only
  cases hbucket : l.buckets.get? key with
  | none => exact .inl ⟨rfl, if_pos (.inl rfl)⟩
  | some bucket =>
    rw [Option.getD_some]
    by_cases hopen : Go.Time.isZero bucket.start = true ∨ l.window ≤ Go.Time.sub now bucket.start
    · refine .inl ⟨?_, if_pos hopen⟩
      simpa [Go.Time.isZero] using hopen
    · rw [if_neg hopen]
      refine .inr ⟨bucket, rfl, ?_⟩
      by_cases hfull : l.limit ≤ bucket.count
      · exact .inr ⟨hfull, if_pos hfull⟩
      · exact .inl ⟨not_le.mp hfull, if_neg hfull⟩

-- A call changes the bucket of its own key only, and answers by that bucket only.
theorem allow_limit : (l.allow key now).2.limit = l.limit ∧
    (l.allow key now).2.window = l.window := by
  unfold allow
  dsimp only
  split
  next => exact ⟨rfl, rfl⟩
  next =>
    split
    next => exact ⟨rfl, rfl⟩
    next => split <;> exact ⟨rfl, rfl⟩

theorem allow_other {other : String} (hother : other ≠ key) :
    (l.allow key now).2.buckets.get? other = l.buckets.get? other := by
  have hset : ∀ bucket, (l.buckets.set key bucket).get? other = l.buckets.get? other := by
    intro bucket
    rw [Go.Map.get?_set, if_neg hother]
  unfold allow
  dsimp only
  split
  next => rfl
  next =>
    split
    next => exact hset _
    next =>
      split
      next => rfl
      next => exact hset _

theorem allow_congr {l l' : FixedWindow} (hlimit : l.limit = l'.limit)
    (hwindow : l.window = l'.window) (hbucket : l.buckets.get? key = l'.buckets.get? key) :
    (l.allow key now).1 = (l'.allow key now).1 ∧
      (l.allow key now).2.buckets.get? key = (l'.allow key now).2.buckets.get? key := by
  have hset : ∀ bucket, (l.buckets.set key bucket).get? key = (l'.buckets.set key bucket).get? key := by
    intro bucket
    rw [Go.Map.get?_set, Go.Map.get?_set, if_pos rfl, if_pos rfl]
  unfold allow
  rw [hlimit, hwindow, hbucket]
  dsimp only
  split
  next => exact ⟨rfl, hbucket⟩
  next =>
    split
    next => exact ⟨rfl, hset _⟩
    next =>
      split
      next => exact ⟨rfl, hbucket⟩
      next => exact ⟨rfl, hset _⟩

-- A call in an open bucket with room is counted there.
theorem allow_counts {key : String} (now : Go.Time) {l : FixedWindow} {start : Int} {count : Int}
    (hlimit : 1 ≤ l.limit) (hkey : key ≠ "") (hbucket : l.buckets.get? key = some ⟨start, count⟩)
    (hstart : start ≠ 0) (hopen : Go.Time.sub now start < l.window) (hcount : count < l.limit) :
    l.allow key now = (true, { l with buckets := l.buckets.set key ⟨start, count + 1⟩ }) := by
  rcases allow_cases key now l hlimit hkey with ⟨hexpired, -⟩ | ⟨bucket, hsome, hanswer⟩
  · rw [hbucket] at hexpired
    have hexpired : l.window ≤ Go.Time.sub now start := by simpa [hstart] using hexpired
    exact absurd hexpired (not_le.mpr hopen)
  · obtain rfl := Option.some.inj (hbucket.symm.trans hsome)
    rcases hanswer with ⟨-, hallow⟩ | ⟨hfull, -⟩
    · exact hallow
    · exact absurd hfull (not_le.mpr hcount)

-- A call behind its bucket opens the next one.
theorem allow_opens {key : String} (now : Go.Time) {l : FixedWindow} (hlimit : 1 ≤ l.limit)
    (hkey : key ≠ "")
    (hexpired : ∀ bucket, l.buckets.get? key = some bucket →
      l.window ≤ Go.Time.sub now bucket.start) :
    l.allow key now = (true, { l with buckets := l.buckets.set key ⟨now, 1⟩ }) := by
  have hlimited : ¬(l.limit ≤ 0 ∨ key = "") := by
    rintro (hnone | hempty)
    · omega
    · exact hkey hempty
  unfold allow
  rw [if_neg hlimited]
  dsimp only
  cases hbucket : l.buckets.get? key with
  | none => exact if_pos (.inl rfl)
  | some bucket => exact if_pos (.inr (hexpired bucket hbucket))

theorem allow_unlimited (key : String) (now : Go.Time) {l : FixedWindow} (hlimit : l.limit ≤ 0) :
    l.allow key now = (true, l) := if_pos (.inl hlimit)

end Allow

-- What holds of a run as far as one key goes.
structure Holds (limit window : Int) (key : String)
    (run : List Asked × FixedWindow) : Prop where
  limit_eq : run.2.limit = limit
  window_eq : run.2.window = window
  course : Course limit.toNat window (eventsOf key run.1)
  unused : run.2.buckets.get? key = none → eventsOf key run.1 = []
  tracks : ∀ bucket, run.2.buckets.get? key = some bucket →
    bucket.start ≠ 0 ∧ 0 ≤ bucket.count ∧
      Tracks window (eventsOf key run.1) bucket.start bucket.count.toNat
  denied : ∀ before asked after, run.1 = before ++ asked :: after → asked.key = key →
    asked.allowed = false → (eventsOf key before).countP (Event.counts asked.start) = limit.toNat

section Run

variable {limit window : Int} {key : String} {run : List Asked × FixedWindow}

theorem eventsOf_snoc (log : List Asked) (asked : Asked) :
    eventsOf key (log ++ [asked]) =
      eventsOf key log ++ if asked.key = key then [asked.event] else [] := by
  unfold eventsOf
  rw [List.filter_append, List.map_append]
  by_cases hkey : asked.key = key <;> simp [hkey]

theorem sub_le {now start window : Int} (hwindow : 0 < window)
    (h : window ≤ Go.Time.sub now start) : start + window ≤ now := by
  unfold Go.Time.sub at h
  rcases le_max_iff.mp h with hleast | hspan
  · exact absurd (hwindow.trans_le hleast) (by decide)
  · have hle : window ≤ now - start := hspan.trans (min_le_left _ _)
    omega

theorem times_of_eventsOf {now : Go.Time} (h : ∀ asked ∈ run.1, asked.time ≤ now) :
    ∀ event ∈ eventsOf key run.1, event.time ≤ now := by
  intro event hevent
  obtain ⟨asked, hasked, rfl⟩ := List.mem_map.mp hevent
  exact h asked (List.mem_filter.mp hasked).1

-- A denial is the last call of the run, or one that there was.
theorem denied_snoc {log : List Asked} {asked : Asked}
    (h : ∀ before denied after, log = before ++ denied :: after → denied.key = key →
      denied.allowed = false →
        (eventsOf key before).countP (Event.counts denied.start) = limit.toNat)
    (hlast : asked.key = key → asked.allowed = false →
      (eventsOf key log).countP (Event.counts asked.start) = limit.toNat) :
    ∀ before denied after, log ++ [asked] = before ++ denied :: after → denied.key = key →
      denied.allowed = false →
        (eventsOf key before).countP (Event.counts denied.start) = limit.toNat := by
  intro before denied after hlog hkey hdenied
  rcases List.eq_nil_or_concat after with rfl | ⟨rest, last, rfl⟩
  · obtain ⟨rfl, hsame⟩ := List.append_inj' hlog rfl
    obtain rfl := List.singleton_inj.mp hsame
    exact hlast hkey hdenied
  · rw [List.concat_eq_append, ← List.cons_append, ← List.append_assoc] at hlog
    exact h before denied rest (List.append_inj' hlog rfl).1 hkey hdenied

-- A call of another key leaves everything about the key as it was.
theorem Holds.ask_other (h : Holds limit window key run) {call : String × Go.Time}
    (hother : key ≠ call.1) : Holds limit window key (ask run call) := by
  have hevents : eventsOf key (ask run call).1 = eventsOf key run.1 := by
    unfold ask
    dsimp only
    rw [eventsOf_snoc, if_neg hother.symm, List.append_nil]
  have hbucket : (ask run call).2.buckets.get? key = run.2.buckets.get? key :=
    allow_other call.1 call.2 run.2 hother
  obtain ⟨hlimit, hwindow⟩ := allow_limit call.1 call.2 run.2
  exact {
    limit_eq := hlimit.trans h.limit_eq
    window_eq := hwindow.trans h.window_eq
    course := hevents ▸ h.course
    unused := by rw [hevents, hbucket]; exact h.unused
    tracks := by rw [hevents, hbucket]; exact h.tracks
    denied := denied_snoc h.denied fun hkey => absurd hkey.symm hother }

-- A call of the key, later than every call so far.
theorem Holds.ask_same (h : Holds limit window key run) (hlimit : 1 ≤ limit) (hwindow : 0 < window)
    (hkey : key ≠ "") {now : Int} (hnow : now ≠ 0)
    (hlater : ∀ asked ∈ run.1, asked.time ≤ now) : Holds limit window key (ask run (key, now)) := by
  obtain ⟨hsamelimit, hsamewindow⟩ := allow_limit key now run.2
  have htimes : ∀ event ∈ eventsOf key run.1, event.time ≤ now := times_of_eventsOf hlater
  have hroom : 1 ≤ limit.toNat := by omega
  rcases allow_cases key now run.2 (h.limit_eq ▸ hlimit) hkey with
    ⟨hexpired, hallow⟩ | ⟨bucket, hbucket, ⟨hcount, hallow⟩ | ⟨hfull, hallow⟩⟩
  · -- a bucket opens, and every call so far lies behind
    have hpast : ∀ event ∈ eventsOf key run.1, event.time ≤ now ∧ event.start + window ≤ now := by
      intro event hevent
      refine ⟨htimes event hevent, ?_⟩
      cases hold : run.2.buckets.get? key with
      | none =>
        rw [h.unused hold] at hevent
        exact absurd hevent List.not_mem_nil
      | some old =>
        obtain ⟨hstart, -, htracks⟩ := h.tracks old hold
        rw [hold] at hexpired
        have hexpired : window ≤ Go.Time.sub now old.start := by
          simpa [hstart, h.window_eq] using hexpired
        have hend := sub_le hwindow hexpired
        rcases htracks.last event hevent with hsame | ⟨-, hbefore⟩
        · rw [hsame]
          exact hend
        · omega
    have hask : ask run (key, now) =
        (run.1 ++ [⟨key, now, now, true⟩],
          { run.2 with buckets := run.2.buckets.set key ⟨now, 1⟩ }) := by
      unfold ask startOf
      dsimp only
      rw [hallow, Go.Map.get?_set, if_pos rfl]
      rfl
    obtain ⟨hcourse, htracks⟩ := h.course.opens hroom hwindow hpast
    have hevents : eventsOf key (ask run (key, now)).1 =
        eventsOf key run.1 ++ [⟨now, now, true⟩] := by
      rw [hask, eventsOf_snoc, if_pos rfl]
      rfl
    refine ⟨hsamelimit.trans h.limit_eq, hsamewindow.trans h.window_eq, ?_, ?_, ?_, ?_⟩
    · rw [hevents]
      exact hcourse
    · rw [hask, Go.Map.get?_set, if_pos rfl]
      exact nofun
    · intro bucket hbucket
      rw [hask, Go.Map.get?_set, if_pos rfl] at hbucket
      obtain rfl := Option.some.inj hbucket
      rw [hevents]
      exact ⟨hnow, Int.one_nonneg, htracks⟩
    · rw [hask]
      exact denied_snoc h.denied fun _ hdenied => nomatch hdenied
  · -- the call is counted in the bucket that is open
    obtain ⟨hstart, hnonneg, htracks⟩ := h.tracks bucket hbucket
    rw [h.limit_eq] at hcount
    have hbegun : bucket.start ≤ now := by
      obtain ⟨event, hevent, hsame⟩ := htracks.open_
      have hbegun := h.course.begun event hevent
      exact hsame ▸ hbegun.trans (htimes event hevent)
    have hask : ask run (key, now) =
        (run.1 ++ [⟨key, now, bucket.start, true⟩],
          { run.2 with buckets := run.2.buckets.set key ⟨bucket.start, bucket.count + 1⟩ }) := by
      unfold ask startOf
      dsimp only
      rw [hallow, Go.Map.get?_set, if_pos rfl]
      rfl
    have hevents : eventsOf key (ask run (key, now)).1 =
        eventsOf key run.1 ++ [⟨now, bucket.start, true⟩] := by
      rw [hask, eventsOf_snoc, if_pos rfl]
      rfl
    obtain ⟨hcourse, htracks⟩ := h.course.joins htracks hbegun true fun _ => by omega
    refine ⟨hsamelimit.trans h.limit_eq, hsamewindow.trans h.window_eq, ?_, ?_, ?_, ?_⟩
    · rw [hevents]
      exact hcourse
    · rw [hask, Go.Map.get?_set, if_pos rfl]
      exact nofun
    · intro counted hcounted
      rw [hask, Go.Map.get?_set, if_pos rfl] at hcounted
      obtain rfl := Option.some.inj hcounted
      have hsucc : (bucket.count + 1).toNat = bucket.count.toNat + 1 := by omega
      rw [hevents, hsucc]
      exact ⟨hstart, by dsimp only; omega, htracks⟩
    · rw [hask]
      exact denied_snoc h.denied fun _ hdenied => nomatch hdenied
  · -- the bucket is full
    obtain ⟨hstart, hnonneg, htracks⟩ := h.tracks bucket hbucket
    rw [h.limit_eq] at hfull
    have hbegun : bucket.start ≤ now := by
      obtain ⟨event, hevent, hsame⟩ := htracks.open_
      have hbegun := h.course.begun event hevent
      exact hsame ▸ hbegun.trans (htimes event hevent)
    have hask : ask run (key, now) =
        (run.1 ++ [⟨key, now, bucket.start, false⟩], run.2) := by
      unfold ask startOf
      dsimp only
      rw [hallow, hbucket]
      rfl
    have hevents : eventsOf key (ask run (key, now)).1 =
        eventsOf key run.1 ++ [⟨now, bucket.start, false⟩] := by
      rw [hask, eventsOf_snoc, if_pos rfl]
      rfl
    have hexact : bucket.count.toNat = limit.toNat := by
      have hle := htracks.count_le h.course
      omega
    obtain ⟨hcourse, hafter⟩ := h.course.joins htracks hbegun false nofun
    refine ⟨hsamelimit.trans h.limit_eq, hsamewindow.trans h.window_eq, ?_, ?_, ?_, ?_⟩
    · rw [hevents]
      exact hcourse
    · rw [hask, hbucket]
      exact nofun
    · intro same hsame
      rw [hask, hbucket] at hsame
      obtain rfl := Option.some.inj hsame
      rw [hevents]
      exact ⟨hstart, hnonneg, hafter⟩
    · rw [hask]
      exact denied_snoc h.denied fun _ _ => htracks.counted.trans hexact

theorem askAll_snoc (calls : List (String × Go.Time)) (call : String × Go.Time)
    (l : FixedWindow) : askAll (calls ++ [call]) l = ask (askAll calls l) call := by
  unfold askAll
  rw [List.foldl_append]
  rfl

theorem askAll_time (calls : List (String × Go.Time)) (l : FixedWindow) :
    ∀ asked ∈ (askAll calls l).1, ∃ call ∈ calls, asked.time = call.2 := by
  induction calls using List.reverseRecOn with
  | nil => exact fun asked hasked => absurd hasked List.not_mem_nil
  | append_singleton calls call ih =>
    intro asked hasked
    rw [askAll_snoc] at hasked
    rcases List.mem_append.mp hasked with hold | hnew
    · obtain ⟨earlier, hearlier, htime⟩ := ih asked hold
      exact ⟨earlier, List.mem_append_left _ hearlier, htime⟩
    · rw [List.mem_singleton.mp hnew]
      exact ⟨call, by simp, rfl⟩

theorem newFixedWindow_window (limit window : Int) : 0 < (newFixedWindow limit window).window := by
  unfold newFixedWindow
  dsimp only
  split
  next => decide
  next h => exact not_le.mp h

theorem newFixedWindow_holds (limit window : Int) (key : String) :
    Holds limit (newFixedWindow limit window).window key ([], newFixedWindow limit window) where
  limit_eq := rfl
  window_eq := rfl
  course := Windows.course_nil
  unused _ := rfl
  tracks bucket hbucket := nomatch hbucket
  denied before asked after hlog := absurd hlog (by simp)

variable (window) in
-- The invariant holds at the end of every run.
theorem askAll_holds (hlimit : 1 ≤ limit) (hkey : key ≠ "") (calls : List (String × Go.Time))
    (htimes : calls.Pairwise fun call later => call.2 ≤ later.2)
    (hnonzero : ∀ call ∈ calls, call.2 ≠ 0) :
    Holds limit (newFixedWindow limit window).window key
      (askAll calls (newFixedWindow limit window)) := by
  induction calls using List.reverseRecOn with
  | nil => exact newFixedWindow_holds limit window key
  | append_singleton calls call ih =>
    obtain ⟨hbefore, -, hlater⟩ := List.pairwise_append.mp htimes
    have hcalls := ih hbefore fun earlier hearlier =>
      hnonzero earlier (List.mem_append_left _ hearlier)
    rw [askAll_snoc]
    by_cases hsame : key = call.1
    · obtain ⟨name, now⟩ := call
      obtain rfl : key = name := hsame
      refine hcalls.ask_same hlimit (newFixedWindow_window limit window) hkey
        (hnonzero (key, now) (by simp)) ?_
      intro asked hasked
      obtain ⟨earlier, hearlier, htime⟩ := askAll_time calls _ asked hasked
      rw [htime]
      exact hlater earlier hearlier (key, now) (by simp)
    · exact hcalls.ask_other hsame

-- Two limiters are the same to a key.
structure SameFor (key : String) (l l' : FixedWindow) : Prop where
  limit : l.limit = l'.limit
  window : l.window = l'.window
  bucket : l.buckets.get? key = l'.buckets.get? key

-- A run is to a key what the run of its own calls is.
theorem askAll_filter (key : String) (calls : List (String × Go.Time)) (l : FixedWindow) :
    (askAll calls l).1.filter (·.key == key) = (askAll (calls.filter (·.1 == key)) l).1 ∧
      SameFor key (askAll calls l).2 (askAll (calls.filter (·.1 == key)) l).2 := by
  induction calls using List.reverseRecOn with
  | nil => exact ⟨rfl, rfl, rfl, rfl⟩
  | append_singleton calls call ih =>
    obtain ⟨hlog, hlimit, hwindow, hbucket⟩ := ih
    rw [askAll_snoc, List.filter_append]
    obtain ⟨hsamelimit, hsamewindow⟩ := allow_limit call.1 call.2 (askAll calls l).2
    by_cases hkey : call.1 = key
    · obtain ⟨name, now⟩ := call
      obtain rfl : name = key := hkey
      have hfilter : [(name, now)].filter (·.1 == name) = [(name, now)] := by simp
      obtain ⟨hanswer, hafter⟩ := allow_congr name now hlimit hwindow hbucket
      obtain ⟨hsamelimit', hsamewindow'⟩ :=
        allow_limit name now (askAll (calls.filter (·.1 == name)) l).2
      rw [hfilter, askAll_snoc]
      refine ⟨?_, ?_, ?_, hafter⟩
      · unfold ask startOf
        dsimp only
        rw [List.filter_append, hlog, hanswer, hafter]
        simp
      · exact (hsamelimit.trans hlimit).trans hsamelimit'.symm
      · exact (hsamewindow.trans hwindow).trans hsamewindow'.symm
    · have hfilter : [call].filter (·.1 == key) = [] := by simp [hkey]
      rw [hfilter, List.append_nil]
      refine ⟨?_, hsamelimit.trans hlimit, hsamewindow.trans hwindow,
        (allow_other call.1 call.2 _ (Ne.symm hkey)).trans hbucket⟩
      unfold ask
      dsimp only
      rw [List.filter_append, hlog]
      simp [hkey]

end Run

-- How many calls of a key have been allowed in one bucket of it.
def allowedIn (key : String) (start : Go.Time) (log : List Asked) : Int :=
  log.countP fun asked => asked.key == key && (asked.allowed && asked.start == start)

-- How many have been allowed within one length of time from a moment on.
def allowedWithin (key : String) (moment : Go.Time) (length : Go.Duration)
    (log : List Asked) : Int :=
  log.countP fun asked => asked.key == key &&
    (asked.allowed && (decide (moment ≤ asked.time) && decide (asked.time < moment + length)))

theorem countP_eventsOf (key : String) (p : Event → Bool) (log : List Asked) :
    (eventsOf key log).countP p = log.countP fun asked => asked.key == key && p asked.event := by
  unfold eventsOf
  rw [List.countP_map, List.countP_filter]
  congr 1
  funext asked
  exact Bool.and_comm _ _

-- The bounds of a limiter, over every run of calls on any keys.
theorem askAll_bounds (limit : Int) (window : Go.Duration) (calls : List (String × Go.Time))
    (key : String) (hlimit : 1 ≤ limit) (hkey : key ≠ "")
    (htimes : calls.Pairwise fun call later => call.2 ≤ later.2)
    (hnonzero : ∀ call ∈ calls, call.2 ≠ 0) :
    let l := newFixedWindow limit window
    let log := (askAll calls l).1
    (∀ start, allowedIn key start log ≤ limit) ∧
      (∀ moment, allowedWithin key moment l.window log ≤ 2 * limit - 1) ∧
      (∀ before asked after, log = before ++ asked :: after → asked.key = key →
        asked.allowed = false → allowedIn key asked.start before = limit) ∧
      log.filter (·.key == key) = (askAll (calls.filter (·.1 == key)) l).1 := by
  have hholds : Holds limit (newFixedWindow limit window).window key
      (askAll calls (newFixedWindow limit window)) :=
    askAll_holds window hlimit hkey calls htimes hnonzero
  refine ⟨fun start => ?_, fun moment => ?_, fun before asked after hlog hasked hdenied => ?_,
    (askAll_filter key calls _).1⟩
  · have hwithin := hholds.course.within start
    rw [countP_eventsOf] at hwithin
    unfold allowedIn
    change ((_ : Nat) : Int) ≤ limit
    exact le_trans (Int.ofNat_le.mpr hwithin) (by omega)
  · have hmost := hholds.course.at_most moment
    rw [countP_eventsOf] at hmost
    unfold allowedWithin
    exact le_trans (Int.ofNat_le.mpr hmost) (by omega)
  · have hcount := hholds.denied before asked after hlog hasked hdenied
    rw [countP_eventsOf] at hcount
    unfold allowedIn
    exact (congrArg Int.ofNat hcount).trans (Int.toNat_of_nonneg (by omega))

theorem askAll_bounds_two :
    let l := newFixedWindow 1 0
    let log := (askAll [("agent:a", 1), ("agent:b", 2), ("agent:a", 3)] l).1
    (∀ start, allowedIn "agent:a" start log ≤ 1) ∧
      (∀ moment, allowedWithin "agent:a" moment l.window log ≤ 2 * 1 - 1) ∧
      (∀ before asked after, log = before ++ asked :: after → asked.key = "agent:a" →
        asked.allowed = false → allowedIn "agent:a" asked.start before = 1) ∧
      log.filter (·.key == "agent:a") = (askAll [("agent:a", 1), ("agent:a", 3)] l).1 :=
  askAll_bounds 1 0 [("agent:a", 1), ("agent:b", 2), ("agent:a", 3)] "agent:a" (by decide)
    (by decide) (by decide) (by decide)

end FixedWindow

end Troubleshooter.RateLimit
