import Troubleshooter.Masking.Log
import Troubleshooter.Masking.Values

-- The keys under which the two maskers replace what stands there.
namespace Troubleshooter.Masking

open Troubleshooter.Library
open Log (foldCase secretKey)

section Walks

mutual

-- The walk that both maskers take through a value.
def maskWith (test : String → Bool) (mark : String) (maskText : String → String) : Value → Value
  | .str text => .str (maskText text)
  | .list items => .list (maskItemsWith test mark maskText items)
  | .map entries => .map (maskEntriesWith test mark maskText entries)
  | value => value

def maskItemsWith (test : String → Bool) (mark : String) (maskText : String → String) :
    List Value → List Value
  | [] => []
  | item :: items => maskWith test mark maskText item :: maskItemsWith test mark maskText items

def maskEntriesWith (test : String → Bool) (mark : String) (maskText : String → String) :
    List (String × Value) → List (String × Value)
  | [] => []
  | (key, child) :: entries =>
    (key, if test key then .str mark else maskWith test mark maskText child) ::
      maskEntriesWith test mark maskText entries

end

mutual

theorem maskValue_eq_maskWith (go : Go.Runtime) (value : Value) :
    maskValue go value = maskWith (sensitive go) "[REDACTED]" maskString value := by
  cases value with
  | list items => exact congrArg Value.list (maskItems_eq_maskWith go items)
  | map entries => exact congrArg Value.map (maskEntries_eq_maskWith go entries)
  | _ => rfl

theorem maskItems_eq_maskWith (go : Go.Runtime) (items : List Value) :
    maskItems go items = maskItemsWith (sensitive go) "[REDACTED]" maskString items := by
  cases items with
  | nil => rfl
  | cons item items =>
    rw [maskItems, maskItemsWith, maskValue_eq_maskWith go item, maskItems_eq_maskWith go items]

theorem maskEntries_eq_maskWith (go : Go.Runtime) (entries : List (String × Value)) :
    maskEntries go entries = maskEntriesWith (sensitive go) "[REDACTED]" maskString entries := by
  cases entries with
  | nil => rfl
  | cons entry entries =>
    obtain ⟨key, child⟩ := entry
    rw [maskEntries, maskEntriesWith, maskValue_eq_maskWith go child,
      maskEntries_eq_maskWith go entries]

end

mutual

theorem mask_eq_maskWith (python : Python.Runtime) (value : Value) :
    Log.mask python value = maskWith secretKey "<redacted>" (Log.maskText python) value := by
  cases value with
  | list items => exact congrArg Value.list (logItems_eq_maskWith python items)
  | map entries => exact congrArg Value.map (logEntries_eq_maskWith python entries)
  | _ => rfl

theorem logItems_eq_maskWith (python : Python.Runtime) (items : List Value) :
    Log.maskItems python items =
      maskItemsWith secretKey "<redacted>" (Log.maskText python) items := by
  cases items with
  | nil => rfl
  | cons item items =>
    rw [Log.maskItems, maskItemsWith, mask_eq_maskWith python item,
      logItems_eq_maskWith python items]

theorem logEntries_eq_maskWith (python : Python.Runtime) (entries : List (String × Value)) :
    Log.maskEntries python entries =
      maskEntriesWith secretKey "<redacted>" (Log.maskText python) entries := by
  cases entries with
  | nil => rfl
  | cons entry entries =>
    obtain ⟨key, child⟩ := entry
    rw [Log.maskEntries, maskEntriesWith, mask_eq_maskWith python child,
      logEntries_eq_maskWith python entries]

end

inductive Step where
  | item (index : Nat)
  | key (name : String)

mutual

-- The places at which the walk puts its mark.
def redactions (test : String → Bool) : Value → List (List Step)
  | .list items => redactionsOfItems test 0 items
  | .map entries => redactionsOfEntries test entries
  | _ => []

def redactionsOfItems (test : String → Bool) (index : Nat) : List Value → List (List Step)
  | [] => []
  | item :: items =>
    (redactions test item).map (.item index :: ·) ++ redactionsOfItems test (index + 1) items

def redactionsOfEntries (test : String → Bool) : List (String × Value) → List (List Step)
  | [] => []
  | (key, child) :: entries =>
    (if test key then [[.key key]] else (redactions test child).map (.key key :: ·)) ++
      redactionsOfEntries test entries

end

mutual

-- The keys that a walk comes to.
def visited (test : String → Bool) : Value → List String
  | .list items => visitedOfItems test items
  | .map entries => visitedOfEntries test entries
  | _ => []

def visitedOfItems (test : String → Bool) : List Value → List String
  | [] => []
  | item :: items => visited test item ++ visitedOfItems test items

def visitedOfEntries (test : String → Bool) : List (String × Value) → List String
  | [] => []
  | (key, child) :: entries =>
    key :: (if test key then [] else visited test child) ++ visitedOfEntries test entries

end

end Walks

section Agreement

variable {first second : String → Bool}

mutual

-- Two walks that judge every key alike that they come to put their marks alike.
theorem redactions_eq (value : Value)
    (h : ∀ key ∈ visited (fun key => first key || second key) value, first key = second key) :
    redactions first value = redactions second value := by
  cases value with
  | list items => exact redactionsOfItems_eq 0 items h
  | map entries => exact redactionsOfEntries_eq entries h
  | _ => rfl

theorem redactionsOfItems_eq (index : Nat) (items : List Value)
    (h : ∀ key ∈ visitedOfItems (fun key => first key || second key) items,
      first key = second key) :
    redactionsOfItems first index items = redactionsOfItems second index items := by
  cases items with
  | nil => rfl
  | cons item items =>
    obtain ⟨hitem, hitems⟩ := List.forall_mem_append.mp h
    rw [redactionsOfItems, redactionsOfItems, redactions_eq item hitem,
      redactionsOfItems_eq (index + 1) items hitems]

theorem redactionsOfEntries_eq (entries : List (String × Value))
    (h : ∀ key ∈ visitedOfEntries (fun key => first key || second key) entries,
      first key = second key) :
    redactionsOfEntries first entries = redactionsOfEntries second entries := by
  cases entries with
  | nil => rfl
  | cons entry entries =>
    obtain ⟨key, child⟩ := entry
    rw [visitedOfEntries] at h
    obtain ⟨hhere, hentries⟩ := List.forall_mem_append.mp h
    obtain ⟨hkey, hchild⟩ := List.forall_mem_cons.mp hhere
    rw [redactionsOfEntries, redactionsOfEntries, redactionsOfEntries_eq entries hentries, hkey]
    cases hsecond : second key with
    | true => rfl
    | false =>
      rw [hkey, hsecond] at hchild
      rw [redactions_eq child hchild]

end

mutual

-- A walk marks the keys that it judges so, and no others.
theorem redaction_key {test : String → Bool} {path : List Step} (value : Value)
    (h : path ∈ redactions test value) :
    ∃ front key, path = front ++ [.key key] ∧ test key = true := by
  cases value with
  | list items => exact redaction_key_items 0 items h
  | map entries => exact redaction_key_entries entries h
  | _ => exact absurd h List.not_mem_nil

theorem redaction_key_items {test : String → Bool} {path : List Step} (index : Nat)
    (items : List Value) (h : path ∈ redactionsOfItems test index items) :
    ∃ front key, path = front ++ [.key key] ∧ test key = true := by
  cases items with
  | nil => exact absurd h List.not_mem_nil
  | cons item items =>
    rcases List.mem_append.mp h with hitem | hitems
    · obtain ⟨inner, hinner, rfl⟩ := List.mem_map.mp hitem
      obtain ⟨front, key, rfl, hkey⟩ := redaction_key item hinner
      exact ⟨.item index :: front, key, rfl, hkey⟩
    · exact redaction_key_items (index + 1) items hitems

theorem redaction_key_entries {test : String → Bool} {path : List Step}
    (entries : List (String × Value)) (h : path ∈ redactionsOfEntries test entries) :
    ∃ front key, path = front ++ [.key key] ∧ test key = true := by
  cases entries with
  | nil => exact absurd h List.not_mem_nil
  | cons entry entries =>
    obtain ⟨name, child⟩ := entry
    rw [redactionsOfEntries] at h
    rcases List.mem_append.mp h with hhere | hentries
    · split at hhere
      next hname => exact ⟨[], name, List.mem_singleton.mp hhere, hname⟩
      next =>
        obtain ⟨inner, hinner, rfl⟩ := List.mem_map.mp hhere
        obtain ⟨front, key, rfl, hkey⟩ := redaction_key child hinner
        exact ⟨.key name :: front, key, rfl, hkey⟩
    · exact redaction_key_entries entries hentries

end

mutual

-- A key that it comes to and judges so is marked somewhere, also where another walk stops earlier.
theorem key_redacted {test stop : String → Bool} (hstop : ∀ key, test key = true → stop key = true)
    {key : String} (hkey : test key = true) (value : Value) (h : key ∈ visited stop value) :
    ∃ front, front ++ [.key key] ∈ redactions test value := by
  cases value with
  | list items => exact key_redacted_items hstop hkey 0 items h
  | map entries => exact key_redacted_entries hstop hkey entries h
  | _ => exact absurd h List.not_mem_nil

theorem key_redacted_items {test stop : String → Bool}
    (hstop : ∀ key, test key = true → stop key = true) {key : String} (hkey : test key = true)
    (index : Nat) (items : List Value) (h : key ∈ visitedOfItems stop items) :
    ∃ front, front ++ [.key key] ∈ redactionsOfItems test index items := by
  cases items with
  | nil => exact absurd h List.not_mem_nil
  | cons item items =>
    rcases List.mem_append.mp h with hitem | hitems
    · obtain ⟨front, hfront⟩ := key_redacted hstop hkey item hitem
      exact ⟨.item index :: front, List.mem_append_left _ (List.mem_map_of_mem hfront)⟩
    · obtain ⟨front, hfront⟩ := key_redacted_items hstop hkey (index + 1) items hitems
      exact ⟨front, List.mem_append_right _ hfront⟩

theorem key_redacted_entries {test stop : String → Bool}
    (hstop : ∀ key, test key = true → stop key = true) {key : String} (hkey : test key = true)
    (entries : List (String × Value)) (h : key ∈ visitedOfEntries stop entries) :
    ∃ front, front ++ [.key key] ∈ redactionsOfEntries test entries := by
  cases entries with
  | nil => exact absurd h List.not_mem_nil
  | cons entry entries =>
    obtain ⟨name, child⟩ := entry
    rw [visitedOfEntries] at h
    rw [redactionsOfEntries]
    rcases List.mem_append.mp h with hhere | hentries
    · rcases List.mem_cons.mp hhere with rfl | hchild
      · refine ⟨[], List.mem_append_left _ ?_⟩
        rw [if_pos hkey]
        exact List.mem_singleton_self _
      · split at hchild
        next => exact absurd hchild List.not_mem_nil
        next hname =>
          obtain ⟨front, hfront⟩ := key_redacted hstop hkey child hchild
          refine ⟨.key name :: front, List.mem_append_left _ ?_⟩
          rw [if_neg fun htest => hname (hstop name htest)]
          exact List.mem_map_of_mem hfront
    · obtain ⟨front, hfront⟩ := key_redacted_entries hstop hkey entries hentries
      exact ⟨front, List.mem_append_right _ hfront⟩

end

-- Two walks put their marks alike exactly when they judge every key alike that both come to.
theorem redactions_iff (value : Value) :
    (∀ path, path ∈ redactions first value ↔ path ∈ redactions second value) ↔
      ∀ key ∈ visited (fun key => first key || second key) value, first key = second key := by
  constructor
  · intro h key hvisited
    have hends : ∀ {test : String → Bool} {front : List Step},
        front ++ [.key key] ∈ redactions test value → test key = true := by
      intro test front hmem
      obtain ⟨front', key', heq, hkey'⟩ := redaction_key value hmem
      cases (List.append_inj' heq rfl).2
      exact hkey'
    have hleft : ∀ key, first key = true → (first key || second key) = true := fun key hkey => by
      rw [hkey, Bool.true_or]
    have hright : ∀ key, second key = true → (first key || second key) = true := fun key hkey => by
      rw [hkey, Bool.or_true]
    by_cases hfirst : first key = true
    · obtain ⟨front, hfront⟩ := key_redacted hleft hfirst value hvisited
      rw [hfirst, hends ((h _).mp hfront)]
    · by_cases hsecond : second key = true
      · obtain ⟨front, hfront⟩ := key_redacted hright hsecond value hvisited
        exact absurd (hends ((h _).mpr hfront)) hfirst
      · rw [Bool.eq_false_iff.mpr hfirst, Bool.eq_false_iff.mpr hsecond]
  · intro h path
    rw [redactions_eq value h]

end Agreement

section Words

def special : List Char :=
  [Char.ofNat 0x130, Char.ofNat 0x131, Char.ofNat 0x17F, Char.ofNat 0x212A] ++
    "ABCDEFGHIJKLMNOPQRSTUVWXYZ".toList

-- Few letters fold to another one.
theorem foldCase_cases (c : Char) : foldCase c = c ∨ c ∈ special := by
  by_cases hcode : 65 ≤ c.toNat ∧ c.toNat ≤ 90 ∨ c.toNat ∈ [0x130, 0x131, 0x17F, 0x212A]
  · have hcapital : ∀ n < 91, 65 ≤ n → Char.ofNat n ∈ special := by decide +kernel
    have hfolded : ∀ n ∈ [0x130, 0x131, 0x17F, 0x212A], Char.ofNat n ∈ special := by decide +kernel
    right
    rw [← Char.ofNat_toNat c]
    rcases hcode with ⟨hlow, hhigh⟩ | hcode
    · exact hcapital _ (by omega) hlow
    · exact hfolded _ hcode
  · left
    rw [not_or, not_and] at hcode
    simp only [List.mem_cons, List.not_mem_nil, or_false, not_or] at hcode
    obtain ⟨hcapital, hfirst, hsecond, hthird, hfourth⟩ := hcode
    unfold foldCase
    rw [if_neg (not_or.mpr ⟨hfirst, hsecond⟩), if_neg hthird, if_neg hfourth]
    exact Text.toLower_of_not_capital (not_and.mpr hcapital)

theorem foldCase_foldCase (c : Char) : foldCase (foldCase c) = foldCase c := by
  rcases foldCase_cases c with heq | hmem
  · rw [heq, heq]
  · have hall : ∀ d ∈ special, foldCase (foldCase d) = foldCase d := by decide +kernel
    exact hall c hmem

theorem mem_dash_foldCase (c : Char) : foldCase c ∈ ['_', '-'] ↔ c ∈ ['_', '-'] := by
  rcases foldCase_cases c with heq | hmem
  · rw [heq]
  · have hall : ∀ d ∈ special, foldCase d ∈ ['_', '-'] ↔ d ∈ ['_', '-'] := by decide +kernel
    exact hall c hmem

theorem comap_spelled (word : String) : (Log.spelled word).comap foldCase = Log.spelled word := by
  unfold Log.spelled Regex.chain
  induction word.toList with
  | nil => rfl
  | cons c letters ih =>
    rw [List.map_cons, List.foldr_cons, Regex.comap, ih]
    simp only [Regex.comap, foldCase_foldCase]

theorem comap_dash : Log.dash.comap foldCase = Log.dash := by
  unfold Log.dash Regex.optional
  simp only [Regex.comap, mem_dash_foldCase]

-- The search for a secret key does not look at the case of the letters.
theorem secretKey_foldCase (key : String) :
    secretKey key = Log.keyPattern.found none (key.toList.map foldCase) := by
  have hpattern : Log.keyPattern.comap foldCase = Log.keyPattern := by
    unfold Log.keyPattern Regex.choice Log.apiKey Regex.chain
    simp only [List.foldl_cons, List.foldl_nil, List.foldr_cons, List.foldr_nil, Regex.comap,
      comap_spelled, comap_dash]
  rw [secretKey, ← hpattern, Regex.found_comap, hpattern]
  rfl

-- What unicode.ToLower takes into ASCII is a letter that matches it when the case is ignored.
structure LowerFolds (go : Go.Runtime) where
  lower : Char → Char
  toLower_eq : ∀ text, go.toLower text = String.ofList (text.toList.map lower)
  folds : ∀ c, (lower c).toNat < 128 → foldCase c = lower c

def shared : List String := ["token", "secret", "api_key"]

-- A key that both maskers know, or neither.
def Shared (go : Go.Runtime) (key : String) : Prop :=
  go.toLower key ∈ shared ∨ secretKey key = false ∧ go.toLower key ∉ sensitiveKeys

variable {go : Go.Runtime}

-- A key that lower-cases to one of Go's is searched as that one.
theorem secretKey_of_toLower (laws : LowerFolds go) {key : String}
    (h : go.toLower key ∈ sensitiveKeys) :
    secretKey key = Log.keyPattern.found none (go.toLower key).toList := by
  have hascii : ∀ word ∈ sensitiveKeys, ∀ c ∈ word.toList, c.toNat < 128 := by decide +kernel
  have hletters := hascii _ h
  rw [laws.toLower_eq, String.toList_ofList] at hletters ⊢
  have hsame : key.toList.map foldCase = key.toList.map laws.lower :=
    List.map_congr_left fun c hc => laws.folds c (hletters _ (List.mem_map_of_mem hc))
  rw [secretKey_foldCase, hsame]

theorem sensitive_eq_secretKey_iff (laws : LowerFolds go) (key : String) :
    sensitive go key = secretKey key ↔ Shared go key := by
  unfold sensitive Shared
  constructor
  · intro heq
    by_cases hmem : go.toLower key ∈ sensitiveKeys
    · have hall : ∀ word ∈ sensitiveKeys, Log.keyPattern.found none word.toList = true →
          word ∈ shared := by decide +kernel
      refine .inl (hall _ hmem ?_)
      rw [← secretKey_of_toLower laws hmem, ← heq, List.contains_iff_mem.mpr hmem]
    · refine .inr ⟨?_, hmem⟩
      rw [← heq]
      simpa using hmem
  · rintro (hshared | ⟨hsecret, hmem⟩)
    · have hall : ∀ word ∈ shared, word ∈ sensitiveKeys ∧
          Log.keyPattern.found none word.toList = true := by decide +kernel
      obtain ⟨hmem, hfound⟩ := hall _ hshared
      rw [secretKey_of_toLower laws hmem, hfound, List.contains_iff_mem.mpr hmem]
    · rw [hsecret]
      simpa using hmem

end Words

-- The two maskers hide the same fields of a value.
def Agree (go : Go.Runtime) (value : Value) : Prop :=
  ∀ path, path ∈ redactions (sensitive go) value ↔ path ∈ redactions secretKey value

theorem agree_iff {go : Go.Runtime} (laws : LowerFolds go) (value : Value) :
    Agree go value ↔
      ∀ key ∈ visited (fun key => sensitive go key || secretKey key) value, Shared go key :=
  (redactions_iff value).trans
    (forall_congr' fun key => imp_congr_right fun _ => sensitive_eq_secretKey_iff laws key)

def asciiFolds : LowerFolds .ascii where
  lower := Char.toLower
  toLower_eq _ := rfl
  folds c h := by
    have hfolded : ∀ n ∈ [0x130, 0x131, 0x17F, 0x212A], 128 ≤ (Char.ofNat n).toLower.toNat := by
      decide +kernel
    have hnot : c.toNat ∉ [0x130, 0x131, 0x17F, 0x212A] := fun hmem => by
      have hcode := hfolded _ hmem
      rw [Char.ofNat_toNat] at hcode
      omega
    simp only [List.mem_cons, List.not_mem_nil, or_false, not_or] at hnot
    obtain ⟨hfirst, hsecond, hthird, hfourth⟩ := hnot
    unfold foldCase
    rw [if_neg (not_or.mpr ⟨hfirst, hsecond⟩), if_neg hthird, if_neg hfourth]

theorem agree_iff_sample :
    Agree .ascii (.map [("case", .map [("Token", .str "abc"), ("note", .str "x")])]) ↔
      ∀ key ∈ visited (fun key => sensitive .ascii key || secretKey key)
        (.map [("case", .map [("Token", .str "abc"), ("note", .str "x")])]), Shared .ascii key :=
  agree_iff asciiFolds _

-- A password goes through the one masker, a phone number through the other.
theorem not_agree_password : ¬Agree .ascii (.map [("password", .str "hunter2")]) ∧
    ¬Agree .ascii (.map [("user", .map [("phone", .str "13812345678")])]) := by
  have hfirst : sensitive .ascii "password" ≠ secretKey "password" := by decide +kernel
  have hsecond : sensitive .ascii "phone" ≠ secretKey "phone" := by decide +kernel
  constructor
  · intro h
    exact hfirst ((redactions_iff _).mp h "password" (by decide +kernel))
  · intro h
    exact hsecond ((redactions_iff _).mp h "phone" (by decide +kernel))

end Troubleshooter.Masking
