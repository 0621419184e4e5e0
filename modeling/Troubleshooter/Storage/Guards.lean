import Troubleshooter.Storage.Dsn

-- Where the gateway and the agent platform agree on a database.
namespace Troubleshooter.Storage

open Troubleshooter.Library
open Troubleshooter.Library.Pattern (many run word)

-- A host part and a database that stand behind some front of a text.
structure Splits (text front part database rest : List Char) : Prop where
  text_eq : text = front ++ ("@tcp(".toList ++ (part ++ (")/".toList ++ (database ++ rest))))
  noClosing : ')' ∉ part
  named : database ≠ []
  noQuery : '?' ∉ database
  ends : ∀ letter ∈ rest.head?, letter = '?'

section Matching

variable {before : Option Char} {text front part database rest : List Char} {hostGroup
  databaseGroup : Nat} {found : Taken Char}

theorem takeWhile_run {stop : Char} {letters more : List Char} (h : stop ∉ letters)
    (hmore : ∀ letter ∈ more.head?, letter = stop) :
    (letters ++ more).takeWhile (· != stop) = letters ∧
      (letters ++ more).dropWhile (· != stop) = more := by
  have hletters : ∀ letter ∈ letters, (letter != stop) = true := by
    intro letter hletter
    exact bne_iff_ne.mpr fun heq => h (heq ▸ hletter)
  rw [List.takeWhile_append_of_pos hletters, List.dropWhile_append_of_pos hletters]
  cases more with
  | nil => exact ⟨List.append_nil _, rfl⟩
  | cons letter more =>
    obtain rfl := hmore letter rfl
    simp

theorem stop_not_mem {stop : Char} {letters : List Char} :
    stop ∉ letters.takeWhile (· != stop) :=
  fun hmem => absurd (List.mem_takeWhile_imp hmem) (by simp)

theorem head_dropWhile {stop : Char} {letters : List Char} :
    ∀ letter ∈ (letters.dropWhile (· != stop)).head?, letter = stop := by
  intro letter hletter
  have hnot := List.head?_dropWhile_not (· != stop) letters
  rw [Option.mem_def.mp hletter] at hnot
  simpa using hnot

-- What comes after the host part does not begin like one.
theorem first_closing {before : Option Char} {letter : Char} {more : List Char}
    {q : Pattern Char} (h : (letter != ')') = true) :
    (Pattern.seq (word ")/".toList) q).first before (letter :: more) = none := by
  rw [Pattern.first_word_seq, if_neg]
  intro hprefix
  exact bne_iff_ne.mp h (List.cons_prefix_cons.mp hprefix).1.symm

theorem first_of_splits (h : Splits text [] part database rest) :
    ∃ taken, (tcpRE hostGroup databaseGroup).first before text =
      some ⟨taken, [(hostGroup, part), (databaseGroup, database)], rest⟩ := by
  obtain ⟨htext, hclosing, hnamed, hquery, hends⟩ := h
  have hpart := @takeWhile_run ')' part (")/".toList ++ (database ++ rest)) hclosing
    fun letter hletter => (Option.some.inj hletter).symm
  have hdatabase := takeWhile_run hquery hends
  unfold tcpRE
  rw [htext, List.nil_append, Pattern.first_word_seq, if_pos (List.prefix_append _ _),
    List.drop_left, Pattern.first_group_many fun _ _ _ hletter => first_closing hletter, hpart.1,
    hpart.2, Pattern.first_word_seq, if_pos (List.prefix_append _ _), List.drop_left,
    Pattern.first_group_run_empty, hdatabase.1, hdatabase.2, if_neg hnamed]
  exact ⟨_, rfl⟩

theorem splits_of_first (h : (tcpRE hostGroup databaseGroup).first before text = some found) :
    ∃ part database rest, Splits text [] part database rest := by
  unfold tcpRE at h
  rw [Pattern.first_word_seq] at h
  split at h
  next hopening =>
    obtain ⟨behind, rfl⟩ := hopening
    rw [List.drop_left, Pattern.first_group_many fun _ _ _ hletter => first_closing hletter,
      Pattern.first_word_seq] at h
    split at h
    next hclosing =>
      obtain ⟨more, hmore⟩ := hclosing
      rw [← hmore, List.drop_left, Pattern.first_group_run_empty] at h
      split at h
      next => exact nomatch h
      next hnamed =>
        refine ⟨behind.takeWhile (· != ')'), more.takeWhile (· != '?'),
          more.dropWhile (· != '?'), ⟨?_, stop_not_mem, hnamed, stop_not_mem, head_dropWhile⟩⟩
        rw [List.takeWhile_append_dropWhile, hmore, List.takeWhile_append_dropWhile,
          List.nil_append]
    next => exact nomatch h
  next => exact nomatch h

theorem Splits.behind (h : Splits text front part database rest) :
    ∃ behind, text = front ++ behind ∧ Splits behind [] part database rest :=
  ⟨_, h.text_eq, ⟨rfl, h.noClosing, h.named, h.noQuery, h.ends⟩⟩

theorem Splits.after {behind : List Char} (h : Splits behind [] part database rest) :
    Splits (front ++ behind) front part database rest :=
  ⟨by rw [h.text_eq, List.nil_append], h.noClosing, h.named, h.noQuery, h.ends⟩

-- No other split of a text begins before this one.
def Leftmost (text front : List Char) : Prop :=
  ∀ other part database rest, Splits text other part database rest → front.length ≤ other.length

theorem search_tcpRE :
    (∃ front part database rest, Splits text front part database rest ∧ Leftmost text front ∧
        ∃ taken, (tcpRE 1 2).search none text = some ⟨taken, [(1, part), (2, database)], rest⟩) ∨
      (∀ front part database rest, ¬Splits text front part database rest) ∧
        (tcpRE 1 2).search none text = none := by
  cases hsearch : (tcpRE 1 2).search none text with
  | none =>
    refine .inr ⟨fun front part database rest hsplits => ?_, rfl⟩
    obtain ⟨behind, htext, hbehind⟩ := hsplits.behind
    obtain ⟨taken, hfirst⟩ := @first_of_splits (Pattern.last none front) behind _ _ _ 1 2 hbehind
    exact nomatch hfirst.symm.trans (Pattern.search_eq_none hsearch htext)
  | some found =>
    obtain ⟨front, behind, rfl, hfirst, hbefore⟩ := Pattern.search_eq_some hsearch
    obtain ⟨part, database, rest, hsplits⟩ := splits_of_first hfirst
    obtain ⟨taken, hsame⟩ := @first_of_splits (Pattern.last none front) behind _ _ _ 1 2 hsplits
    obtain rfl := Option.some.inj (hfirst.symm.trans hsame)
    refine .inl ⟨front, part, database, rest, hsplits.after, ?_, taken, rfl⟩
    intro other part' database' rest' hother
    by_contra hshorter
    -- What is before this split does not match, but a split before it would.
    obtain ⟨behind', htext, hbehind'⟩ := hother.behind
    obtain ⟨late, hfront⟩ : ∃ late, front = other ++ late := by
      obtain ⟨late, hlate⟩ := List.prefix_of_prefix_length_le ⟨behind', htext.symm⟩
        (List.prefix_append front behind) (Nat.le_of_lt (Nat.not_le.mp hshorter))
      exact ⟨late, hlate.symm⟩
    have hlate : late ≠ [] := by
      rintro rfl
      rw [hfront, List.append_nil] at hshorter
      exact hshorter (Nat.le_refl _)
    have hnone := hbefore other late hfront hlate
    rw [hfront, List.append_assoc] at htext
    rw [List.append_cancel_left htext] at hnone
    obtain ⟨taken', hfirst'⟩ := @first_of_splits (Pattern.last none other) behind' _ _ _ 1 2 hbehind'
    exact nomatch hfirst'.symm.trans hnone

-- Behind a user and a password, which the platform asks for.
structure Login (text user password part database rest : List Char) : Prop where
  splits : Splits text (user ++ ':' :: password) part database rest
  hasUser : user ≠ []
  noColon : ':' ∉ user
  noAt : '@' ∉ password

theorem first_at {letter : Char} {more : List Char} (h : (letter != '@') = true) :
    (tcpRE hostGroup databaseGroup).first before (letter :: more) = none := by
  unfold tcpRE
  rw [Pattern.first_word_seq, if_neg]
  intro hprefix
  exact bne_iff_ne.mp h (List.cons_prefix_cons.mp hprefix).1.symm

theorem first_colon {letter : Char} {more : List Char} {q : Pattern Char}
    (h : (letter != ':') = true) :
    (Pattern.seq (word [':']) q).first before (letter :: more) = none := by
  rw [Pattern.first_word_seq, if_neg]
  intro hprefix
  exact bne_iff_ne.mp h (List.cons_prefix_cons.mp hprefix).1.symm

theorem first_of_login {user password : List Char}
    (h : Login text user password part database rest) :
    ∃ taken, Platform.goDSNRE.first before text =
      some ⟨taken, [(1, user), (2, password), (3, part), (4, database)], rest⟩ := by
  obtain ⟨hsplits, huser, hcolon, hat⟩ := h
  obtain ⟨behind, htext, hbehind⟩ := hsplits.behind
  have hstart : ∀ letter ∈ behind.head?, letter = '@' := by
    rw [hbehind.text_eq]
    exact fun letter hletter => (Option.some.inj hletter).symm
  have huserRun := @takeWhile_run ':' user ([':'] ++ (password ++ behind)) hcolon
    fun letter hletter => (Option.some.inj hletter).symm
  have hpasswordRun := takeWhile_run hat hstart
  have hsplit : text = user ++ ([':'] ++ (password ++ behind)) := by rw [htext]; simp
  obtain ⟨taken, hfirst⟩ := @first_of_splits (Pattern.last (Pattern.last (Pattern.last before user)
    [':']) password) behind _ _ _ 3 4 hbehind
  unfold Platform.goDSNRE
  rw [hsplit, Pattern.first_group_run fun _ _ _ hletter => first_colon hletter, huserRun.1,
    huserRun.2, if_neg huser, Pattern.first_word_seq, if_pos (List.prefix_append _ _),
    List.drop_left, Pattern.first_group_many fun _ _ _ hletter => first_at hletter,
    hpasswordRun.1, hpasswordRun.2, hfirst]
  exact ⟨_, rfl⟩

theorem login_of_first (h : Platform.goDSNRE.first before text = some found) :
    ∃ user password part database rest, Login text user password part database rest := by
  unfold Platform.goDSNRE at h
  rw [Pattern.first_group_run fun _ _ _ hletter => first_colon hletter] at h
  split at h
  next => exact nomatch h
  next huser =>
    rw [Pattern.first_word_seq] at h
    split at h
    next hcolon =>
      obtain ⟨behind, hbehind⟩ := hcolon
      rw [← hbehind, List.drop_left,
        Pattern.first_group_many fun _ _ _ hletter => first_at hletter] at h
      cases hfirst : (tcpRE 3 4).first (Pattern.last (Pattern.last (Pattern.last before
          (text.takeWhile (· != ':'))) [':']) (behind.takeWhile (· != '@')))
          (behind.dropWhile (· != '@')) with
      | none =>
        rw [hfirst] at h
        exact nomatch h
      | some inner =>
        obtain ⟨part, database, rest, hsplits⟩ := splits_of_first hfirst
        refine ⟨text.takeWhile (· != ':'), behind.takeWhile (· != '@'), part, database, rest, ?_,
          huser, stop_not_mem, stop_not_mem⟩
        have hafter : Splits (text.takeWhile (· != ':') ++ ':' :: behind.takeWhile (· != '@') ++
            behind.dropWhile (· != '@')) (text.takeWhile (· != ':') ++ ':' ::
              behind.takeWhile (· != '@')) part database rest := hsplits.after
        have htext : text.takeWhile (· != ':') ++ ':' :: behind.takeWhile (· != '@') ++
            behind.dropWhile (· != '@') = text := by
          rw [List.append_assoc, List.cons_append, List.takeWhile_append_dropWhile]
          exact (congrArg _ hbehind).trans List.takeWhile_append_dropWhile
        rwa [htext] at hafter
    next => exact nomatch h

theorem search_of_leftmost (h : Splits text front part database rest)
    (hleftmost : Leftmost text front) :
    ∃ taken, (tcpRE 1 2).search none text = some ⟨taken, [(1, part), (2, database)], rest⟩ := by
  rcases @search_tcpRE text with
    ⟨other, part', database', rest', hother, hfirst, taken, hsearch⟩ | ⟨hnone, -⟩
  · -- Two leftmost splits begin at one place.
    have hlength : front.length = other.length :=
      Nat.le_antisymm (hleftmost other part' database' rest' hother)
        (hfirst front part database rest h)
    obtain ⟨behind, htext, hbehind⟩ := h.behind
    obtain ⟨behind', htext', hbehind'⟩ := hother.behind
    obtain ⟨rfl, rfl⟩ := List.append_inj (htext.symm.trans htext') hlength
    obtain ⟨_, hsame⟩ := @first_of_splits none behind _ _ _ 1 2 hbehind
    obtain ⟨_, hsame'⟩ := @first_of_splits none behind _ _ _ 1 2 hbehind'
    have hfound := Option.some.inj (hsame.symm.trans hsame')
    simp only [Taken.mk.injEq, List.cons.injEq, Prod.mk.injEq, true_and, and_true] at hfound
    obtain ⟨-, ⟨rfl, rfl⟩, rfl⟩ := hfound
    exact ⟨taken, hsearch⟩
  · exact absurd h (hnone front part database rest)

end Matching

section Hosts

variable {isDigit : Char → Bool} {int : String → Except String Int} {part host value : String}
  {port : Int}

-- What makes both read one host in what stands in the parentheses.
structure SameHost (isDigit : Char → Bool) (value : String) : Prop where
  closed : value.toList.head? = some '[' → ']' ∈ value.toList →
    Go.trimSpace (bracketed value) = bracketed value
  unclosed : value.toList.head? = some '[' → ']' ∉ value.toList → colons value = 1 →
    Platform.isDigits isDigit (afterColon value) = false
  hostless : value.toList.head? ≠ some '[' → colons value = 1 → beforeColon value = "" →
    Platform.isDigits isDigit (afterColon value) = false
  withPort : value.toList.head? ≠ some '[' → colons value = 1 → beforeColon value ≠ "" →
    Platform.isDigits isDigit (afterColon value) = true ∧
      Go.trimSpace (beforeColon value) = beforeColon value

theorem length_trimSpace_le : (Go.trimSpace value).toList.length ≤ value.toList.length := by
  rw [Go.trimSpace, Text.strip, String.toList_ofList]
  exact ((List.rdropWhile_prefix _ _).length_le).trans (List.dropWhile_suffix _).length_le

theorem length_beforeColon (h : colons value = 1) :
    (beforeColon value).toList.length < value.toList.length := by
  have hpos : 0 < value.toList.length := by
    refine List.length_pos_of_mem (a := ':') ?_
    exact List.count_pos_iff.mp (by unfold colons at h; omega)
  have hkept := (List.rdropWhile_prefix (· ≠ ':') value.toList).length_le
  rw [beforeColon, String.toList_ofList, List.length_dropLast]
  omega

-- Without its end a text is another one.
theorem trimSpace_beforeColon_ne (h : colons value = 1) :
    Go.trimSpace (beforeColon value) ≠ value := by
  intro heq
  have hlength := @length_trimSpace_le (beforeColon value)
  rw [heq] at hlength
  have := length_beforeColon h
  omega

theorem map_port_eq_ok {read : Except String Int} {named : String}
    (h : (read.map fun port => (named, port)) = .ok (host, port)) : named = host := by
  cases read with
  | error raised => exact nomatch h
  | ok found => exact (Prod.mk.inj (Except.ok.inj h)).1

theorem host_of_parse (h : Platform.parseMySQLHostPort isDigit int part = .ok (host, port)) :
    host =
      if (Python.strip part).toList.head? = some '[' ∧ ']' ∈ (Python.strip part).toList then
        bracketed (Python.strip part)
      else if colons (Python.strip part) = 1 ∧
          Platform.isDigits isDigit (afterColon (Python.strip part)) = true then
        beforeColon (Python.strip part)
      else Python.strip part := by
  unfold Platform.parseMySQLHostPort at h
  generalize Python.strip part = value at h ⊢
  dsimp only at h
  split at h
  next hbracket =>
    rw [if_pos hbracket]
    split at h
    next => exact (map_port_eq_ok h).symm
    next => exact (Prod.mk.inj (Except.ok.inj h)).1.symm
  next hbracket =>
    rw [if_neg hbracket]
    split at h
    next hport =>
      rw [if_pos hport]
      exact (map_port_eq_ok h).symm
    next hport =>
      rw [if_neg hport]
      exact (Prod.mk.inj (Except.ok.inj h)).1.symm

theorem hostOf_eq_iff (hends : Python.strip part = Go.trimSpace part)
    (h : Platform.parseMySQLHostPort isDigit int part = .ok (host, port)) :
    hostOf part = host ↔ SameHost isDigit (Go.trimSpace part) := by
  have htrim : Go.trimSpace (Go.trimSpace part) = Go.trimSpace part := Text.strip_strip _ _
  rw [host_of_parse h, hends]
  unfold hostOf
  generalize Go.trimSpace part = value at htrim ⊢
  dsimp only
  by_cases hopen : value.toList.head? = some '['
  · by_cases hclosed : ']' ∈ value.toList
    · rw [if_pos hopen, if_pos hclosed, if_pos ⟨hopen, hclosed⟩]
      refine ⟨fun hsame => ⟨fun _ _ => hsame, ?_, ?_, ?_⟩, fun hsame => hsame.closed hopen hclosed⟩
      · exact fun _ hnot => absurd hclosed hnot
      · exact fun hnot => absurd hopen hnot
      · exact fun hnot => absurd hopen hnot
    · rw [if_pos hopen, if_neg hclosed, if_neg fun hboth => hclosed hboth.2, htrim]
      -- Without a closing bracket the platform still takes a port away.
      split
      next hport =>
        refine iff_of_false (fun heq => trimSpace_beforeColon_ne hport.1 ?_) fun hsame => ?_
        · rw [← heq, htrim]
        · exact absurd (hport.2.symm.trans (hsame.unclosed hopen hclosed hport.1))
            Bool.true_eq_false.mp
      next hport =>
        refine iff_of_true rfl ⟨?_, fun _ _ hone => ?_, ?_, ?_⟩
        · exact fun _ hmem => absurd hmem hclosed
        · exact Bool.eq_false_of_not_eq_true fun hdigits => hport ⟨hone, hdigits⟩
        · exact fun hnot => absurd hopen hnot
        · exact fun hnot => absurd hopen hnot
  · have hbracket : ¬(value.toList.head? = some '[' ∧ ']' ∈ value.toList) :=
      fun hboth => hopen hboth.1
    rw [if_neg hopen, if_neg hbracket]
    by_cases hone : colons value = 1
    · by_cases hhost : beforeColon value = ""
      · have hbefore : ¬(colons value ≤ 1 ∧ beforeColon value ≠ "") := fun hboth => hboth.2 hhost
        rw [if_neg hbefore, htrim]
        split
        next hport =>
          refine iff_of_false (fun heq => trimSpace_beforeColon_ne hone ?_) fun hsame => ?_
          · rw [← heq, htrim]
          · exact absurd (hport.2.symm.trans (hsame.hostless hopen hone hhost))
              Bool.true_eq_false.mp
        next hport =>
          refine iff_of_true rfl ⟨?_, ?_, fun _ _ _ => ?_, ?_⟩
          · exact fun hyes => absurd hyes hopen
          · exact fun hyes => absurd hyes hopen
          · exact Bool.eq_false_of_not_eq_true fun hdigits => hport ⟨hone, hdigits⟩
          · exact fun _ _ hne => absurd hhost hne
      · rw [if_pos ⟨hone.le, hhost⟩]
        split
        next hport =>
          refine ⟨fun heq => ⟨?_, ?_, ?_, fun _ _ _ => ⟨hport.2, heq⟩⟩, fun hsame =>
            (hsame.withPort hopen hone hhost).2⟩
          · exact fun hyes => absurd hyes hopen
          · exact fun hyes => absurd hyes hopen
          · exact fun _ _ hnone => absurd hnone hhost
        next hport =>
          refine iff_of_false (trimSpace_beforeColon_ne hone) fun hsame => ?_
          exact hport ⟨hone, (hsame.withPort hopen hone hhost).1⟩
    · -- Without a colon, or with several, all of it is the host.
      have hall : (if colons value ≤ 1 ∧ beforeColon value ≠ "" then beforeColon value else value) =
          value := by
        split
        next hfew =>
          have hnone : ':' ∉ value.toList := by
            refine List.count_eq_zero.mp ?_
            unfold colons at hfew hone
            omega
          have hempty : beforeColon value = "" := by
            have hdrop : value.toList.rdropWhile (· ≠ ':') = [] := by
              refine List.rdropWhile_eq_nil_iff.mpr fun letter hletter => ?_
              exact decide_eq_true fun heq => hnone (heq ▸ hletter)
            rw [beforeColon, hdrop]
            rfl
          exact absurd hempty hfew.2
        next => rfl
      have hport : ¬(colons value = 1 ∧
          Platform.isDigits isDigit (afterColon value) = true) := fun hboth => hone hboth.1
      rw [hall, htrim, if_neg hport]
      refine iff_of_true rfl ⟨?_, ?_, ?_, ?_⟩
      · exact fun hyes => absurd hyes hopen
      · exact fun hyes => absurd hyes hopen
      · exact fun _ hyes => absurd hyes hone
      · exact fun _ hyes => absurd hyes hone

end Hosts

end Troubleshooter.Storage
