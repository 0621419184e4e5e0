import Mathlib.Data.List.Basic

-- Patterns with repetitions of any part, looks around a place and numbered groups, matched by
-- trying their ways one after the other.
namespace Troubleshooter.Library

inductive Pattern (α : Type) where
  | empty
  | letter (test : α → Bool)
  -- takes nothing, and tests the letters before and after the place
  | look (test : Option α → Option α → Bool)
  | seq (first second : Pattern α)
  | alt (first second : Pattern α)
  -- as often as it can be, and then less often
  | star (body : Pattern α)
  -- not at all, and then more often
  | lazy (body : Pattern α)
  -- what follows the place must go on so
  | ahead (body : Pattern α)
  | group (number : Nat) (body : Pattern α)

-- What a way of matching takes, what stands in its groups, and what it leaves.
structure Taken (α : Type) where
  taken : List α
  groups : List (Nat × List α)
  rest : List α

namespace Taken

variable {α : Type}

def append (m n : Taken α) : Taken α := ⟨m.taken ++ n.taken, m.groups ++ n.groups, n.rest⟩

-- The last part of the text that a group has been matched with.
def group? (m : Taken α) (number : Nat) : Option (List α) := m.groups.reverse.lookup number

end Taken

namespace Pattern

variable {α : Type}

-- The letter before what follows the taken ones.
def last (before : Option α) (taken : List α) : Option α := taken.getLast?.or before

-- A repetition whose rounds each take a letter, so that there is one for each letter at most.
def repeats (greedy : Bool) (ways : Option α → List α → List (Taken α)) :
    Nat → Option α → List α → List (Taken α)
  | 0, _, text => [⟨[], [], text⟩]
  | rounds + 1, before, text =>
    let more := ((ways before text).filter fun m => !m.taken.isEmpty).flatMap fun m =>
      (repeats greedy ways rounds (last before m.taken) m.rest).map m.append
    if greedy then more ++ [⟨[], [], text⟩] else ⟨[], [], text⟩ :: more

-- The ways in which a pattern matches at the head of a text, the preferred one first.
def ways : Pattern α → Option α → List α → List (Taken α)
  | .empty, _, text => [⟨[], [], text⟩]
  | .letter _, _, [] => []
  | .letter test, _, c :: rest => if test c then [⟨[c], [], rest⟩] else []
  | .look test, before, text => if test before text.head? then [⟨[], [], text⟩] else []
  | .seq first second, before, text =>
    (first.ways before text).flatMap fun m =>
      (second.ways (last before m.taken) m.rest).map m.append
  | .alt first second, before, text => first.ways before text ++ second.ways before text
  | .star body, before, text => repeats true body.ways text.length before text
  | .lazy body, before, text => repeats false body.ways text.length before text
  | .ahead body, before, text =>
    ((body.ways before text).take 1).map fun m => ⟨[], m.groups, text⟩
  | .group number body, before, text =>
    (body.ways before text).map fun m => { m with groups := m.groups ++ [(number, m.taken)] }

def chain (parts : List (Pattern α)) : Pattern α := parts.foldr .seq .empty

def choice (first : Pattern α) (others : List (Pattern α)) : Pattern α := others.foldl .alt first

def optional (body : Pattern α) : Pattern α := .alt body .empty

def many (test : α → Bool) : Pattern α := .star (.letter test)

def run (test : α → Bool) : Pattern α := .seq (.letter test) (many test)

def word [DecidableEq α] (letters : List α) : Pattern α :=
  chain (letters.map fun c => .letter (· == c))

def first (p : Pattern α) (before : Option α) (text : List α) : Option (Taken α) :=
  (p.ways before text).head?

-- The leftmost match, from a place in a text on.
def search (p : Pattern α) : Option α → List α → Option (Taken α)
  | before, [] => p.first before []
  | before, c :: rest => (p.first before (c :: rest)).or (p.search (some c) rest)

-- The leftmost matches that do not overlap of a pattern that takes at least one letter, and the
-- letters between them, from a place on and past the letters still to be skipped.
def scanFrom (p : Pattern α) : Nat → Option α → List α → List (α ⊕ Taken α)
  | _, _, [] => []
  | skipped + 1, _, c :: rest => p.scanFrom skipped (some c) rest
  | 0, before, c :: rest =>
    match p.first before (c :: rest) with
    | some m => .inr m :: p.scanFrom (m.taken.length - 1) (some c) rest
    | none => .inl c :: p.scanFrom 0 (some c) rest

def findAll (p : Pattern α) (text : List α) : List (Taken α) :=
  (p.scanFrom 0 none text).filterMap Sum.getRight?

def removeFrom (p : Pattern α) (skipped : Nat) (before : Option α) (text : List α) : List α :=
  (p.scanFrom skipped before text).filterMap Sum.getLeft?

-- The text without what the pattern matches.
def removeAll (p : Pattern α) (text : List α) : List α := p.removeFrom 0 none text

-- What the pattern says of the letters that it takes, of the one before them and of the rest.
inductive Takes : Pattern α → Option α → List α → List α → Prop
  | empty {before rest} : Takes .empty before [] rest
  | letter {test before c rest} (h : test c = true) : Takes (.letter test) before [c] rest
  | look {test before rest} (h : test before rest.head? = true) :
      Takes (.look test) before [] rest
  | seq {first second before t u rest} (hfirst : Takes first before t (u ++ rest))
      (hsecond : Takes second (last before t) u rest) :
      Takes (.seq first second) before (t ++ u) rest
  | left {first second before t rest} (h : Takes first before t rest) :
      Takes (.alt first second) before t rest
  | right {first second before t rest} (h : Takes second before t rest) :
      Takes (.alt first second) before t rest
  | starNil {body before rest} : Takes (.star body) before [] rest
  | starCons {body before t u rest} (hfirst : Takes body before t (u ++ rest))
      (hmore : Takes (.star body) (last before t) u rest) :
      Takes (.star body) before (t ++ u) rest
  | lazyNil {body before rest} : Takes (.lazy body) before [] rest
  | lazyCons {body before t u rest} (hfirst : Takes body before t (u ++ rest))
      (hmore : Takes (.lazy body) (last before t) u rest) :
      Takes (.lazy body) before (t ++ u) rest
  | ahead {body before t rest} (h : Takes body before t rest) :
      Takes (.ahead body) before [] (t ++ rest)
  | group {number body before t rest} (h : Takes body before t rest) :
      Takes (.group number body) before t rest

section Ways

variable {p first second body : Pattern α} {test : α → Bool} {before : Option α}
  {text taken rest : List α} {m : Taken α}

-- What each round of a repetition takes is taken by its body.
theorem takes_of_mem_repeats {greedy : Bool} {rounds : Nat} {whole : Pattern α}
    (hbody : ∀ {before : Option α} {text : List α} {m : Taken α}, m ∈ body.ways before text →
      text = m.taken ++ m.rest ∧ body.Takes before m.taken m.rest)
    (hnil : ∀ {before : Option α} {rest : List α}, whole.Takes before [] rest)
    (hcons : ∀ {before : Option α} {t u rest : List α}, body.Takes before t (u ++ rest) →
      whole.Takes (last before t) u rest → whole.Takes before (t ++ u) rest)
    (h : m ∈ repeats greedy body.ways rounds before text) :
    text = m.taken ++ m.rest ∧ whole.Takes before m.taken m.rest := by
  induction rounds generalizing before text m with
  | zero =>
    obtain rfl := List.mem_singleton.mp h
    exact ⟨rfl, hnil⟩
  | succ rounds ih =>
    have hcases : m = ⟨[], [], text⟩ ∨ ∃ one ∈ body.ways before text,
        ∃ others ∈ repeats greedy body.ways rounds (last before one.taken) one.rest,
          one.append others = m := by
      have hmore : ∀ more : List (Taken α),
          m ∈ (if greedy then more ++ [⟨[], [], text⟩] else ⟨[], [], text⟩ :: more) →
            m = ⟨[], [], text⟩ ∨ m ∈ more := by
        intro more hmem
        cases greedy with
        | true => exact (List.mem_append.mp hmem).symm.imp_left List.mem_singleton.mp
        | false => exact List.mem_cons.mp hmem
      refine (hmore _ h).imp_right fun hmem => ?_
      obtain ⟨one, hone, hothers⟩ := List.mem_flatMap.mp hmem
      obtain ⟨others, hothers, hm⟩ := List.mem_map.mp hothers
      exact ⟨one, (List.mem_filter.mp hone).1, others, hothers, hm⟩
    rcases hcases with rfl | ⟨one, hone, others, hothers, rfl⟩
    · exact ⟨rfl, hnil⟩
    · obtain ⟨htext, hone⟩ := hbody hone
      obtain ⟨hrest, hothers⟩ := ih hothers
      rw [hrest] at htext hone
      exact ⟨by rw [htext, Taken.append, List.append_assoc], hcons hone hothers⟩

-- A way of a pattern takes the head of the text, and leaves the rest.
theorem takes_of_mem_ways (h : m ∈ p.ways before text) :
    text = m.taken ++ m.rest ∧ p.Takes before m.taken m.rest := by
  induction p generalizing before text m with
  | empty =>
    obtain rfl := List.mem_singleton.mp h
    exact ⟨rfl, .empty⟩
  | letter test =>
    cases text with
    | nil => exact absurd h List.not_mem_nil
    | cons c rest =>
      rw [ways] at h
      split at h
      next htest =>
        obtain rfl := List.mem_singleton.mp h
        exact ⟨rfl, .letter htest⟩
      next => exact absurd h List.not_mem_nil
  | look test =>
    rw [ways] at h
    split at h
    next htest =>
      obtain rfl := List.mem_singleton.mp h
      exact ⟨rfl, .look htest⟩
    next => exact absurd h List.not_mem_nil
  | seq first second ihfirst ihsecond =>
    obtain ⟨one, hone, hothers⟩ := List.mem_flatMap.mp h
    obtain ⟨other, hother, rfl⟩ := List.mem_map.mp hothers
    obtain ⟨htext, hone⟩ := ihfirst hone
    obtain ⟨hrest, hother⟩ := ihsecond hother
    rw [hrest] at htext hone
    exact ⟨by rw [htext, Taken.append, List.append_assoc], .seq hone hother⟩
  | alt first second ihfirst ihsecond =>
    rcases List.mem_append.mp h with hmem | hmem
    · exact ⟨(ihfirst hmem).1, .left (ihfirst hmem).2⟩
    · exact ⟨(ihsecond hmem).1, .right (ihsecond hmem).2⟩
  | star body ih => exact takes_of_mem_repeats ih .starNil .starCons h
  | lazy body ih => exact takes_of_mem_repeats ih .lazyNil .lazyCons h
  | ahead body ih =>
    obtain ⟨one, hone, rfl⟩ := List.mem_map.mp h
    obtain ⟨htext, hone⟩ := ih (List.mem_of_mem_take hone)
    refine ⟨rfl, ?_⟩
    dsimp only
    rw [htext]
    exact .ahead hone
  | group number body ih =>
    obtain ⟨one, hone, rfl⟩ := List.mem_map.mp h
    exact ⟨(ih hone).1, .group (ih hone).2⟩

theorem takes_of_first (h : p.first before text = some m) :
    text = m.taken ++ m.rest ∧ p.Takes before m.taken m.rest :=
  takes_of_mem_ways (List.mem_of_mem_head? h)

theorem takes_empty : empty.Takes before taken rest ↔ taken = [] :=
  ⟨fun h => by cases h; rfl, fun h => h ▸ .empty⟩

theorem takes_letter : (letter test).Takes before taken rest ↔ ∃ c, taken = [c] ∧ test c = true :=
  ⟨fun h => by cases h with | letter htest => exact ⟨_, rfl, htest⟩,
    fun ⟨_, htaken, htest⟩ => htaken ▸ .letter htest⟩

theorem takes_look {test : Option α → Option α → Bool} :
    (look test).Takes before taken rest ↔ taken = [] ∧ test before rest.head? = true :=
  ⟨fun h => by cases h with | look htest => exact ⟨rfl, htest⟩,
    fun ⟨htaken, htest⟩ => htaken ▸ .look htest⟩

theorem takes_seq : (seq first second).Takes before taken rest ↔
    ∃ t u, taken = t ++ u ∧ first.Takes before t (u ++ rest) ∧
      second.Takes (last before t) u rest :=
  ⟨fun h => by cases h with | seq hfirst hsecond => exact ⟨_, _, rfl, hfirst, hsecond⟩,
    fun ⟨_, _, htaken, hfirst, hsecond⟩ => htaken ▸ .seq hfirst hsecond⟩

theorem takes_alt : (alt first second).Takes before taken rest ↔
    first.Takes before taken rest ∨ second.Takes before taken rest :=
  ⟨fun h => by cases h with
    | left hfirst => exact .inl hfirst
    | right hsecond => exact .inr hsecond,
    fun h => h.elim .left .right⟩

theorem takes_many (h : (many test).Takes before taken rest) : ∀ c ∈ taken, test c = true := by
  generalize hp : many test = p at h
  induction h with
  | starNil => exact fun c hc => absurd hc List.not_mem_nil
  | starCons hfirst hmore _ ih =>
    obtain rfl := Pattern.star.inj hp
    obtain ⟨c, rfl, hc⟩ := takes_letter.mp hfirst
    exact List.forall_mem_cons.mpr ⟨hc, ih rfl⟩
  | _ => exact nomatch hp

-- Each letter that a chain of letters takes is one of them.
theorem takes_letters {tests : List (α → Bool)}
    (h : (chain (tests.map .letter)).Takes before taken rest) :
    ∀ c ∈ taken, ∃ test ∈ tests, test c = true := by
  induction tests generalizing before taken with
  | nil =>
    obtain rfl := takes_empty.mp h
    exact fun c hc => absurd hc List.not_mem_nil
  | cons test tests ih =>
    obtain ⟨t, u, rfl, hfirst, hmore⟩ := takes_seq.mp h
    obtain ⟨c, rfl, hc⟩ := takes_letter.mp hfirst
    refine List.forall_mem_cons.mpr ⟨⟨test, List.mem_cons_self, hc⟩, fun d hd => ?_⟩
    obtain ⟨other, hother, hd⟩ := ih hmore d hd
    exact ⟨other, List.mem_cons_of_mem test hother, hd⟩

theorem takes_word [DecidableEq α] {letters : List α} :
    (word letters).Takes before taken rest ↔ taken = letters := by
  induction letters generalizing before taken with
  | nil => exact takes_empty
  | cons c letters ih =>
    have hword : word (c :: letters) = seq (letter (· == c)) (word letters) := rfl
    rw [hword, takes_seq]
    constructor
    · rintro ⟨t, u, rfl, hfirst, hmore⟩
      obtain ⟨d, rfl, hd⟩ := takes_letter.mp hfirst
      rw [ih.mp hmore, beq_iff_eq.mp hd]
      rfl
    · rintro rfl
      exact ⟨[c], letters, rfl, takes_letter.mpr ⟨c, rfl, beq_self_eq_true c⟩, ih.mpr rfl⟩

end Ways

section Removing

variable {p : Pattern α} {before : Option α} {text front rest : List α} {c : α}

theorem last_cons : last before (c :: text) = last (some c) text := by
  unfold last
  rw [List.getLast?_cons]
  cases text.getLast? with
  | none => rfl
  | some d => rfl

theorem removeFrom_some {m : Taken α} (h : p.first before (c :: text) = some m) :
    p.removeFrom 0 before (c :: text) = p.removeFrom (m.taken.length - 1) (some c) text := by
  unfold removeFrom
  rw [scanFrom, h]
  rfl

theorem removeFrom_none (h : p.first before (c :: text) = none) :
    p.removeFrom 0 before (c :: text) = c :: p.removeFrom 0 (some c) text := by
  unfold removeFrom
  rw [scanFrom, h]
  rfl

theorem removeFrom_sublist {skipped : Nat} : (p.removeFrom skipped before text).Sublist text := by
  induction text generalizing skipped before with
  | nil => cases skipped <;> exact List.Sublist.refl []
  | cons c rest ih =>
    cases skipped with
    | succ skipped => exact ih.cons c
    | zero =>
      cases hfirst : p.first before (c :: rest) with
      | some m =>
        rw [removeFrom_some hfirst]
        exact ih.cons c
      | none =>
        rw [removeFrom_none hfirst]
        exact ih.cons_cons c

-- What is removed before a letter that the pattern never takes does not reach it.
theorem removeFrom_barrier {skipped : Nat}
    (hbarrier : ∀ before taken rest, p.Takes before taken rest → c ∉ taken)
    (hskipped : skipped ≤ front.length) :
    ∃ kept, (∀ d ∈ kept, d ∈ front) ∧ p.removeFrom skipped before (front ++ c :: rest) =
      kept ++ p.removeFrom 0 (last before front) (c :: rest) := by
  induction front generalizing skipped before with
  | nil =>
    obtain rfl := Nat.le_zero.mp hskipped
    exact ⟨[], fun _ h => absurd h List.not_mem_nil, rfl⟩
  | cons d front ih =>
    rw [last_cons]
    cases skipped with
    | succ skipped =>
      obtain ⟨kept, hkept, hremoved⟩ :=
        @ih (some d) skipped (Nat.le_of_succ_le_succ hskipped)
      exact ⟨kept, fun e he => List.mem_cons_of_mem d (hkept e he), hremoved⟩
    | zero =>
      cases hfirst : p.first before (d :: front ++ c :: rest) with
      | none =>
        obtain ⟨kept, hkept, hremoved⟩ := @ih (some d) 0 (Nat.zero_le _)
        refine ⟨d :: kept, ?_, ?_⟩
        · exact List.forall_mem_cons.mpr
            ⟨List.mem_cons_self, fun e he => List.mem_cons_of_mem d (hkept e he)⟩
        · rw [List.cons_append] at hfirst ⊢
          rw [removeFrom_none hfirst, hremoved]
          rfl
      | some m =>
        obtain ⟨htext, htakes⟩ := takes_of_first hfirst
        have hlength : m.taken.length - 1 ≤ front.length := by
          -- Otherwise the letter is taken.
          by_contra hlong
          refine hbarrier _ _ _ htakes ?_
          have hprefix : d :: front ++ [c] <+: m.taken := by
            refine List.prefix_of_prefix_length_le ?_ ⟨m.rest, htext.symm⟩ ?_
            · exact ⟨rest, by simp⟩
            · rw [List.length_append, List.length_cons, List.length_singleton]
              omega
          exact hprefix.subset (List.mem_append_right _ List.mem_cons_self)
        obtain ⟨kept, hkept, hremoved⟩ := @ih (some d) (m.taken.length - 1) hlength
        refine ⟨kept, fun e he => List.mem_cons_of_mem d (hkept e he), ?_⟩
        rw [List.cons_append] at hfirst ⊢
        rw [removeFrom_some hfirst, hremoved]

-- Nothing is removed from a part of the text in which no match begins.
theorem removeFrom_untouched
    (h : ∀ done d more, front = done ++ d :: more →
      p.first (last before done) (d :: more ++ rest) = none) :
    p.removeFrom 0 before (front ++ rest) = front ++ p.removeFrom 0 (last before front) rest := by
  induction front generalizing before with
  | nil => rfl
  | cons d front ih =>
    have hfirst : p.first before (d :: (front ++ rest)) = none := h [] d front rfl
    rw [last_cons, List.cons_append, removeFrom_none hfirst, ih fun done e more hfront => ?_,
      List.cons_append]
    have hlater := h (d :: done) e more (congrArg (d :: ·) hfront)
    rwa [last_cons] at hlater

end Removing

section Searching

variable {p : Pattern α} {before : Option α} {text : List α} {m : Taken α}

-- The match that is found begins where no other begins before it.
theorem search_eq_some (h : p.search before text = some m) :
    ∃ front rest, text = front ++ rest ∧ p.first (last before front) rest = some m ∧
      ∀ early late, front = early ++ late → late ≠ [] →
        p.first (last before early) (late ++ rest) = none := by
  induction text generalizing before with
  | nil =>
    refine ⟨[], [], rfl, h, fun early late hsplit hlate => ?_⟩
    exact absurd (List.append_eq_nil_iff.mp hsplit.symm).2 hlate
  | cons c text ih =>
    rw [search] at h
    cases hhere : p.first before (c :: text) with
    | some n =>
      rw [hhere, Option.some_or] at h
      refine ⟨[], c :: text, rfl, hhere.trans h, fun early late hsplit hlate => ?_⟩
      exact absurd (List.append_eq_nil_iff.mp hsplit.symm).2 hlate
    | none =>
      rw [hhere, Option.none_or] at h
      obtain ⟨front, rest, rfl, hfirst, hbefore⟩ := ih h
      refine ⟨c :: front, rest, rfl, last_cons ▸ hfirst, fun early late hsplit hlate => ?_⟩
      cases early with
      | nil =>
        obtain rfl := hsplit
        exact hhere
      | cons d early =>
        obtain ⟨rfl, htail⟩ := List.cons.inj hsplit
        rw [last_cons]
        exact hbefore early late htail hlate

theorem search_eq_none (h : p.search before text = none) {front rest : List α}
    (hsplit : text = front ++ rest) : p.first (last before front) rest = none := by
  induction text generalizing before front with
  | nil =>
    obtain ⟨rfl, rfl⟩ := List.append_eq_nil_iff.mp hsplit.symm
    exact h
  | cons c text ih =>
    rw [search] at h
    obtain ⟨hhere, hlater⟩ := Option.or_eq_none_iff.mp h
    cases front with
    | nil =>
      obtain rfl := hsplit
      exact hhere
    | cons d front =>
      obtain ⟨rfl, htail⟩ := List.cons.inj hsplit
      rw [last_cons]
      exact ih hlater htail

end Searching

end Pattern

end Troubleshooter.Library
