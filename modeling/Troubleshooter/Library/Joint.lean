import Troubleshooter.Library.Blind
import Troubleshooter.Library.Chosen

-- Two components joined: what the upper one asks of the lower one is sent, carried out
-- there call by call, with everyone else's calls in between, and received.
namespace Troubleshooter.Library

inductive JointCall (U L : Signature) where
  | own (op : U.Op)
  | send (op : U.Op)
  | lower (op : L.Op)
  | receive (op : U.Op) (answer : U.Res op)

abbrev JointCall.Res {U L : Signature} : JointCall U L → Type
  | .own op => U.Res op
  | .send _ => Unit
  | .lower op => L.Res op
  | .receive _ _ => Unit

abbrev Joint (U L : Signature) : Signature where
  Op := JointCall U L
  Res := JointCall.Res

-- Which calls go to the lower component, and what carries each of them out there.
structure Link (U L : Signature) where
  remote : U.Op → Bool
  serve : (op : U.Op) → Prog L (U.Res op)

namespace Prog

variable {U L : Signature} {α β : Type}

-- A program with each of its calls carried out by a program.
def expand (implement : (op : U.Op) → Prog L (U.Res op)) : Prog U α → Prog L α
  | .ret value => .ret value
  | .call op next => (implement op).bind fun answer => (next answer).expand implement

theorem expand_blind {alike : Likeness L} {implement : (op : U.Op) → Prog L (U.Res op)}
    (h : ∀ op, (implement op).Blind alike) (program : Prog U α) :
    (program.expand implement).Blind alike := by
  induction program with
  | ret value => trivial
  | call op next ih => exact blind_bind (h op) ih

theorem expand_asks {allowed : L.Op → Prop} {worth : U.Op → Prop}
    {implement : (op : U.Op) → Prog L (U.Res op)} (h : ∀ op, worth op → (implement op).Asks allowed)
    {program : Prog U α} (hprogram : program.Asks worth) :
    (program.expand implement).Asks allowed := by
  induction program with
  | ret value => trivial
  | call op next ih =>
    exact asks_bind (h op hprogram.1) fun answer => ih answer (hprogram.2 answer)

-- A program of the lower component among the calls of the two.
def lowered : Prog L α → Prog (Joint U L) α
  | .ret value => .ret value
  | .call op next => .call (.lower op) fun answer => (next answer).lowered

-- What stands in the place of one call of the upper component.
def carried (link : Link U L) (op : U.Op) (goOn : U.Res op → Prog (Joint U L) α) :
    Prog (Joint U L) α :=
  if link.remote op then
    .call (.send op) fun _ => (link.serve op).lowered.bind fun answer =>
      .call (.receive op answer) fun _ => goOn answer
  else .call (.own op) goOn

def joined (link : Link U L) : Prog U α → Prog (Joint U L) α
  | .ret value => .ret value
  | .call op next => carried link op fun answer => (next answer).joined link

variable {link : Link U L}

theorem carried_own {op : U.Op} (h : link.remote op = false)
    (goOn : U.Res op → Prog (Joint U L) α) : carried link op goOn = .call (.own op) goOn :=
  if_neg (by rw [h]; exact Bool.false_ne_true)

theorem carried_remote {op : U.Op} (h : link.remote op = true)
    (goOn : U.Res op → Prog (Joint U L) α) :
    carried link op goOn = .call (.send op) fun _ => (link.serve op).lowered.bind fun answer =>
      .call (.receive op answer) fun _ => goOn answer :=
  if_pos h

-- Where a joined program stands beside the program of the upper component: at the same
-- call, or within a remote one.
inductive Beside (link : Link U L) : Prog (Joint U L) α → Prog U α → Prop
  | level (program : Prog U α) : Beside link (program.joined link) program
  | within (op : U.Op) (next : U.Res op → Prog U α) (hremote : link.remote op = true)
      (rest : Prog L (U.Res op)) :
      Beside link (rest.lowered.bind fun answer =>
        .call (.receive op answer) fun _ => (next answer).joined link) (.call op next)

-- What the next call of a joined program can be.
theorem Beside.call_cases {op : (Joint U L).Op} {next : (Joint U L).Res op → Prog (Joint U L) α}
    {upper : Prog U α} (h : Beside link (.call op next) upper) :
    (∃ own goOn, upper = .call own goOn ∧ link.remote own = false ∧
      Prog.call op next = .call (.own own) fun answer => (goOn answer).joined link) ∨
    (∃ remote, ∃ goOn : U.Res remote → Prog U α,
      upper = .call remote goOn ∧ link.remote remote = true ∧
      Prog.call op next = .call (.send remote) fun _ =>
        (link.serve remote).lowered.bind fun answer =>
          .call (.receive remote answer) fun _ => (goOn answer).joined link) ∨
    (∃ lower goOn, Prog.call op next = .call (.lower lower) goOn ∧
      ∀ answer, Beside link (goOn answer) upper) ∨
    ∃ remote goOn answer, upper = .call remote goOn ∧ link.remote remote = true ∧
      Prog.call op next = .call (.receive remote answer) fun _ => (goOn answer).joined link := by
  generalize hprogram : Prog.call op next = program at h ⊢
  cases h with
  | level upper =>
    cases upper with
    | ret value => cases hprogram
    | call called goOn =>
      rw [joined]
      cases hremote : link.remote called with
      | false => exact Or.inl ⟨called, goOn, rfl, hremote, carried_own hremote _⟩
      | true => exact Or.inr (Or.inl ⟨called, goOn, rfl, hremote, carried_remote hremote _⟩)
  | within remote goOn hremote rest =>
    cases rest with
    | ret answer => exact Or.inr (Or.inr (Or.inr ⟨remote, goOn, answer, rfl, hremote, rfl⟩))
    | call lower rest =>
      exact Or.inr (Or.inr (Or.inl ⟨lower, _, rfl, fun answer =>
        .within remote goOn hremote (rest answer)⟩))

-- A joined program has come to its end where the other one has.
theorem Beside.returned {program : Prog (Joint U L) α} {upper : Prog U α}
    (h : Beside link program upper) : program.returned = upper.returned := by
  cases h with
  | level upper =>
    cases upper with
    | ret value => rfl
    | call op next =>
      rw [joined]
      unfold carried
      split <;> rfl
  | within op next hremote rest =>
    cases rest <;> rfl

end Prog

section Alike

variable {U L : Signature} {σ τ α : Type} {link : Link U L}

-- Only answers of the lower component may be mixed up.
def Likeness.below (alike : Likeness L) : Likeness (Joint U L)
  | .lower op => alike op
  | .own _ | .send _ | .receive _ _ => Eq

theorem Prog.lowered_blind {alike : Likeness L} {program : Prog L α} (h : program.Blind alike) :
    (program.lowered : Prog (Joint U L) α).Blind alike.below := by
  induction program with
  | ret value => trivial
  | call op next ih =>
    refine ⟨fun answer answer' halike => ?_, fun answer => ih answer (h.2 answer)⟩
    exact congrArg lowered (h.1 answer answer' halike)

-- Where what carries out the remote calls is blind, the joined program is.
theorem Prog.joined_blind {alike : Likeness L}
    (h : ∀ op, link.remote op = true → (link.serve op).Blind alike) (program : Prog U α) :
    (program.joined link).Blind alike.below := by
  induction program with
  | ret value => trivial
  | call op next ih =>
    rw [joined]
    cases hremote : link.remote op with
    | false =>
      rw [carried_own hremote]
      exact ⟨fun _ _ halike => congrArg (fun answer => (next answer).joined link) halike, ih⟩
    | true =>
      rw [carried_remote hremote]
      refine ⟨fun _ _ _ => rfl, fun _ => ?_⟩
      exact blind_bind (lowered_blind (h op hremote)) fun answer =>
        ⟨fun _ _ _ => rfl, fun _ => ih answer⟩

end Alike

-- The threads of a pool stay the same in number.
theorem Pool.length_runs {S : Signature} {σ γ α : Type} (machine : Machine S σ)
    (protocol : Protocol S σ γ) (pool : Pool S σ γ α) (schedule : List Nat) :
    (pool.runs machine protocol schedule).threads.length = pool.threads.length := by
  induction schedule using List.reverseRecOn with
  | nil => rfl
  | append_singleton schedule i ih =>
    rw [runs_concat]
    rcases step_cases machine protocol (pool.runs machine protocol schedule) i with
      hsame | ⟨ghost, op, next, -, -, hnext⟩
    · rw [hsame, ih]
    · rw [hnext, List.length_set, ih]

section Watched

variable {U L : Signature} {σ τ γ α β : Type}

-- The discipline of the upper component over a joined program: between the sending and the
-- receiving of a call the lower component is asked for no more than the call is worth.
def Protocol.joint (upper : Protocol U σ γ) (link : Link U L) (worth : U.Op → L.Op → Prop) :
    Protocol (Joint U L) (σ × τ) (γ × Option U.Op) where
  observe ghost state
    | .own op, answer => (upper.observe ghost.1 state.1 op answer, ghost.2)
    | .send op, _ => (ghost.1, some op)
    | .lower _, _ => ghost
    | .receive op answer, _ => (upper.observe ghost.1 state.1 op answer, none)
  allows ghost
    | .own op => link.remote op = false ∧ upper.allows ghost.1 op
    | .send op => ghost.2 = none ∧ link.remote op = true ∧ upper.allows ghost.1 op
    | .lower op => ∃ called, ghost.2 = some called ∧ upper.allows ghost.1 called ∧ worth called op
    | .receive op _ => ghost.2 = some op ∧ link.remote op = true ∧ upper.allows ghost.1 op
  answers ghost state
    | .own op, answer => upper.answers ghost.1 state.1 op answer
    | _, _ => True

variable {upper : Protocol U σ γ} {link : Link U L} {worth : U.Op → L.Op → Prop}

theorem Prog.lowered_follows {program : Prog L α} {called : U.Op}
    (h : program.Asks (worth called)) {ghost : γ} (hcalled : upper.allows ghost called)
    {goOn : α → Prog (Joint U L) β} {post : γ × Option U.Op → β → Prop}
    (hnext : ∀ value, (goOn value).Follows (upper.joint link worth : Protocol _ (σ × τ) _)
      (ghost, some called) post) :
    (program.lowered.bind goOn).Follows (upper.joint link worth : Protocol _ (σ × τ) _)
      (ghost, some called) post := by
  induction program with
  | ret value => exact hnext value
  | call op next ih =>
    exact (follows_step ..).mpr ⟨⟨called, rfl, hcalled, h.1⟩, fun _ answer _ =>
      ih answer (h.2 answer)⟩

-- A program that keeps to its discipline keeps to it joined, where its remote calls rely on
-- nothing and ask for what they are worth.
theorem Prog.joined_follows (hserve : ∀ op, link.remote op = true → (link.serve op).Asks (worth op))
    (hfree : ∀ ghost state op answer, link.remote op = true → upper.answers ghost state op answer)
    {program : Prog U α} {ghost : γ} {post : γ → α → Prop}
    (h : program.Follows upper ghost post) :
    (program.joined link).Follows (upper.joint link worth : Protocol _ (σ × τ) _) (ghost, none)
      fun ghost value => ghost.2 = none ∧ post ghost.1 value := by
  induction program generalizing ghost with
  | ret value => exact (follows_ret ..).mpr ⟨rfl, (follows_ret ..).mp h⟩
  | call op next ih =>
    obtain ⟨hallowed, hnext⟩ := (follows_step ..).mp h
    rw [joined]
    cases hremote : link.remote op with
    | false =>
      rw [carried_own hremote]
      exact (follows_step ..).mpr ⟨⟨hremote, hallowed⟩, fun met answer hanswer =>
        ih answer (hnext met.1 answer hanswer)⟩
    | true =>
      rw [carried_remote hremote]
      refine (follows_step ..).mpr ⟨⟨rfl, hremote, hallowed⟩, fun _ _ _ => ?_⟩
      refine lowered_follows (hserve op hremote) hallowed fun answer => ?_
      refine (follows_step ..).mpr ⟨⟨rfl, hremote, hallowed⟩, fun met _ _ => ?_⟩
      exact ih answer (hnext met.1 answer (hfree ghost met.1 op answer hremote))

end Watched

-- What is answered to the remote calls, each by the number of the call.
abbrev Oracle (U : Signature) := Nat → (op : U.Op) → U.Res op

-- A component that counts its calls, and what it makes of an answer from elsewhere.
structure Asking (U : Signature) (σ : Type) where
  own : Machine U σ
  received : (op : U.Op) → U.Res op → σ → σ
  clock : σ → Nat
  own_ticks : ∀ op s, clock s < clock (own.handle op s).2
  received_ticks : ∀ op answer s, clock s < clock (received op answer s)

namespace Asking

variable {U L : Signature} {σ τ γ δ α : Type} (asking : Asking U σ) (link : Link U L)

-- The component with the answers to its remote calls as what is not its own.
def chosen : Chosen U σ ((op : U.Op) → U.Res op) where
  handle answer op s :=
    if link.remote op then (answer op, asking.received op (answer op) s)
    else asking.own.handle op s
  enabled op s := link.remote op || asking.own.enabled op s
  clock := asking.clock
  ticks answer op s := by
    split
    · exact asking.received_ticks op _ s
    · exact asking.own_ticks op s

-- The component by itself, with an oracle in the place of the other one.
def machine (oracle : Oracle U) : Machine U σ := (asking.chosen link).machine oracle

-- Both components, each with its own state.
def joint (lower : Machine L τ) : Machine (Joint U L) (σ × τ) where
  handle
    | .own op, s => ((asking.own.handle op s.1).1, (asking.own.handle op s.1).2, s.2)
    | .send _, s => ((), s)
    | .lower op, s => ((lower.handle op s.2).1, s.1, (lower.handle op s.2).2)
    | .receive op answer, s => ((), asking.received op answer s.1, s.2)
  enabled
    | .own op, s => asking.own.enabled op s.1
    | .lower op, s => lower.enabled op s.2
    | _, _ => true

variable {asking link}

theorem chosen_own {op : U.Op} (h : link.remote op = false) (answer : (op : U.Op) → U.Res op)
    (s : σ) : (asking.chosen link).handle answer op s = asking.own.handle op s :=
  if_neg (by rw [h]; exact Bool.false_ne_true)

theorem chosen_remote {op : U.Op} (h : link.remote op = true) (answer : (op : U.Op) → U.Res op)
    (s : σ) :
    (asking.chosen link).handle answer op s = (answer op, asking.received op (answer op) s) :=
  if_pos h

-- Where two lower components are not to be told apart, neither are the two pairs.
theorem joint_twins {alike : Likeness L} {lower lower' : Machine L τ}
    (h : Pool.Twins alike lower lower') :
    Pool.Twins alike.below (asking.joint lower) (asking.joint lower') where
  enabled op s := by
    cases op with
    | lower op => exact h.enabled op s.2
    | _ => rfl
  written op s := by
    cases op with
    | lower op => exact congrArg (Prod.mk s.1) (h.written op s.2)
    | _ => rfl
  answered op s := by
    cases op with
    | lower op => exact h.answered op s.2
    | _ => rfl

-- A joint pool and a pool of the upper component: the same state there, and each thread
-- beside its own. What is left over are programs of the lower component.
structure Mirrors (link : Link U L) (pool : Pool (Joint U L) (σ × τ) δ α)
    (upper : Pool U σ γ α) : Prop where
  state : upper.state = pool.state.1
  threads : ∀ (i : Nat) (mirror : Thread U γ α), upper.threads[i]? = some mirror →
    ∃ thread : Thread (Joint U L) δ α, pool.threads[i]? = some thread ∧
      thread.program.Beside link mirror.program
  others : ∀ (i : Nat) (thread : Thread (Joint U L) δ α), pool.threads[i]? = some thread →
    upper.threads[i]? = none → ∃ program : Prog L α, thread.program = program.lowered

variable {pool : Pool (Joint U L) (σ × τ) δ α} {upper : Pool U σ γ α}

-- A step that the upper component takes no part in.
theorem Mirrors.still (h : Mirrors link pool upper) {i : Nat} {thread : Thread (Joint U L) δ α}
    {later : σ × τ} (hlater : later.1 = pool.state.1) (hi : i < pool.threads.length)
    (hbeside : ∀ mirror, upper.threads[i]? = some mirror →
      thread.program.Beside link mirror.program)
    (hlowered : upper.threads[i]? = none → ∃ program : Prog L α, thread.program = program.lowered) :
    Mirrors link ⟨later, pool.threads.set i thread⟩ upper where
  state := h.state.trans hlater.symm
  threads j mirror hmirror := by
    by_cases hij : i = j
    · subst hij
      exact ⟨thread, by simp [hi], hbeside mirror hmirror⟩
    · obtain ⟨same, hsame, hold⟩ := h.threads j mirror hmirror
      exact ⟨same, by rw [List.getElem?_set_ne hij, hsame], hold⟩
  others j other hother hnone := by
    rcases getElem?_set_cases hother with ⟨rfl, rfl⟩ | ⟨-, hold⟩
    · exact hlowered hnone
    · exact h.others j other hold hnone

theorem Mirrors.within (h : Mirrors link pool upper) {i : Nat} {thread : Thread (Joint U L) δ α}
    {mirror : Thread U γ α} {later : σ × τ} (hlater : later.1 = pool.state.1)
    (hi : i < pool.threads.length) (hmirror : upper.threads[i]? = some mirror)
    (hbeside : thread.program.Beside link mirror.program) :
    Mirrors link ⟨later, pool.threads.set i thread⟩ upper := by
  refine h.still hlater hi (fun other hother => ?_) fun hnone => ?_
  · obtain rfl := Option.some.inj (hmirror.symm.trans hother)
    exact hbeside
  · exact absurd (hnone.symm.trans hmirror) (Option.some_ne_none _).symm

-- A step that both take.
theorem Mirrors.both (h : Mirrors link pool upper) {i : Nat} {thread : Thread (Joint U L) δ α}
    {mirror : Thread U γ α} {later : σ × τ} (hi : i < pool.threads.length)
    (hmirror : i < upper.threads.length)
    (hbeside : thread.program.Beside link mirror.program) :
    Mirrors link ⟨later, pool.threads.set i thread⟩ ⟨later.1, upper.threads.set i mirror⟩ where
  state := rfl
  threads j other hother := by
    rcases getElem?_set_cases hother with ⟨rfl, rfl⟩ | ⟨hne, hold⟩
    · exact ⟨thread, by simp [hi], hbeside⟩
    · obtain ⟨same, hsame, hold⟩ := h.threads j other hold
      exact ⟨same, by rw [List.getElem?_set_ne hne, hsame], hold⟩
  others j other hother hnone := by
    rcases getElem?_set_cases hother with ⟨rfl, rfl⟩ | ⟨hne, hold⟩
    · simp [hmirror] at hnone
    · exact h.others j other hold (by rwa [List.getElem?_set_ne hne] at hnone)

-- The oracle that answers one call as the other component has.
open scoped Classical in
noncomputable def answering (oracle : Oracle U) (n : Nat) (op : U.Op) (answer : U.Res op) :
    Oracle U :=
  Function.update oracle n (Function.update (oracle n) op answer)

theorem answering_now (oracle : Oracle U) (n : Nat) (op : U.Op) (answer : U.Res op) :
    answering oracle n op answer n op = answer := by
  simp [answering]

theorem answering_before (oracle : Oracle U) {n m : Nat} (op : U.Op) (answer : U.Res op)
    (h : m < n) : answering oracle n op answer m = oracle m := by
  simp [answering, Nat.ne_of_lt h]

-- Each step of the joint pool is at most one of the upper component alone, under an oracle
-- that goes on from the one before it.
theorem Mirrors.step (lower : Machine L τ) (watch : Protocol (Joint U L) (σ × τ) δ)
    (protocol : Protocol U σ γ) (h : Mirrors link pool upper) (oracle : Oracle U) (i : Nat) :
    ∃ (oracle' : Oracle U) (schedule : List Nat),
      (∀ n, n < asking.clock upper.state → oracle n = oracle' n) ∧
        Mirrors link (pool.step (asking.joint lower) watch i)
          (upper.runs (asking.machine link oracle') protocol schedule) := by
  rcases Pool.step_cases (asking.joint lower) watch pool i with
    hsame | ⟨ghost, op, next, hthread, hready, hnext⟩
  · rw [hsame]
    exact ⟨oracle, [], fun _ _ => rfl, h⟩
  have hlength : i < pool.threads.length := (List.getElem?_eq_some_iff.mp hthread).1
  rw [hnext]
  cases hmirror : upper.threads[i]? with
  | none =>
    obtain ⟨program, hprogram⟩ := h.others i _ hthread hmirror
    cases program with
    | ret value => cases hprogram
    | call low goOn =>
      cases hprogram
      refine ⟨oracle, [], fun _ _ => rfl, h.still rfl hlength (fun mirror hsome => ?_)
        fun _ => ⟨goOn _, rfl⟩⟩
      exact absurd (hmirror.symm.trans hsome) (Option.some_ne_none mirror).symm
  | some mirror =>
  have hi : i < upper.threads.length := (List.getElem?_eq_some_iff.mp hmirror).1
  obtain ⟨thread, hsame, hbeside⟩ := h.threads i _ hmirror
  obtain rfl : thread = ⟨ghost, .call op next⟩ := Option.some.inj (hsame.symm.trans hthread)
  obtain ⟨known, program⟩ := mirror
  rcases hbeside.call_cases with ⟨own, goOn, hupper, hlocal, hcall⟩ |
      ⟨remote, goOn, hupper, hremote, hcall⟩ | ⟨low, goOn, hcall, hon⟩ |
      ⟨remote, goOn, answer, hupper, hremote, hcall⟩
  case inl =>
    cases hcall
    obtain rfl : program = .call own goOn := hupper
    have hready' : (asking.chosen link).enabled own upper.state = true := by
      rw [h.state]
      exact (Bool.or_eq_true _ _).mpr (Or.inr hready)
    refine ⟨oracle, [i], fun _ _ => rfl, ?_⟩
    change Mirrors link _ (upper.step ((asking.chosen link).machine oracle) protocol i)
    rw [Chosen.step_ready _ protocol hmirror hready', chosen_own hlocal, h.state]
    exact h.both hlength hi (.level _)
  case inr.inl =>
    cases hcall
    obtain rfl : program = .call remote goOn := hupper
    exact ⟨oracle, [], fun _ _ => rfl, h.within rfl hlength hmirror (.within remote goOn hremote _)⟩
  case inr.inr.inl =>
    cases hcall
    exact ⟨oracle, [], fun _ _ => rfl, h.within rfl hlength hmirror (hon _)⟩
  case inr.inr.inr =>
    cases hcall
    obtain rfl : program = .call remote goOn := hupper
    refine ⟨answering oracle (asking.clock upper.state) remote answer, [i],
      fun n hn => (answering_before oracle remote answer hn).symm, ?_⟩
    change Mirrors link _ (upper.step ((asking.chosen link).machine _) protocol i)
    have hready' : (asking.chosen link).enabled remote upper.state = true :=
      (Bool.or_eq_true _ _).mpr (Or.inl hremote)
    have hnow : answering oracle (asking.clock upper.state) remote answer
        ((asking.chosen link).clock upper.state) remote = answer := answering_now ..
    rw [Chosen.step_ready _ protocol hmirror hready', chosen_remote hremote, hnow, h.state]
    exact h.both hlength hi (.level _)

-- Whatever the two components do together, in every order of their steps, the upper one has
-- done alone, with an oracle in the place of the other.
theorem Mirrors.runs (asking : Asking U σ) (lower : Machine L τ)
    (watch : Protocol (Joint U L) (σ × τ) δ) (protocol : Protocol U σ γ)
    (h : Mirrors link pool upper) (oracle : Oracle U) (schedule : List Nat) :
    ∃ (oracle' : Oracle U) (schedule' : List Nat),
      Mirrors link (pool.runs (asking.joint lower) watch schedule)
        (upper.runs (asking.machine link oracle') protocol schedule') :=
  Chosen.runs_follow (asking.joint lower) watch protocol (Mirrors link)
    (fun _ _ oracle i hbefore => Mirrors.step lower watch protocol hbefore oracle i) h oracle
    schedule

end Asking

end Troubleshooter.Library
