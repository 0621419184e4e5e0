import Mathlib.Data.List.Chain
import Troubleshooter.Library.Text

-- The texts of JSON values, as they are written with any spaces between their parts.
namespace Troubleshooter.Library.Json

def isBlank (letter : Char) : Bool := letter ∈ [' ', '\t', '\n', '\x0d']

def isHex (letter : Char) : Bool :=
  letter.isDigit || ('a' ≤ letter && letter ≤ 'f') || ('A' ≤ letter && letter ≤ 'F')

-- What stands between the quotation marks of a string.
inductive Body : List Char → Prop
  | nil : Body []
  | plain (letter : Char) (rest : List Char) (hcontrol : 0x20 ≤ letter.toNat)
      (hquote : letter ≠ '"') (hescape : letter ≠ '\\') (hrest : Body rest) :
      Body (letter :: rest)
  | escaped (letter : Char) (rest : List Char)
      (hletter : letter ∈ ['"', '\\', '/', 'b', 'f', 'n', 'r', 't']) (hrest : Body rest) :
      Body ('\\' :: letter :: rest)
  | code (digits rest : List Char) (hlength : digits.length = 4)
      (hdigits : ∀ letter ∈ digits, isHex letter = true) (hrest : Body rest) :
      Body ('\\' :: 'u' :: digits ++ rest)

def quoted (body : List Char) : List Char := '"' :: body ++ ['"']

def Digits (digits : List Char) : Prop := digits ≠ [] ∧ ∀ letter ∈ digits, letter.isDigit = true

structure Number (sign whole fraction exponent : List Char) : Prop where
  hsign : sign ∈ [[], ['-']]
  hwhole : Digits whole
  hzero : whole.head? = some '0' → whole = ['0']
  hfraction : fraction = [] ∨ ∃ digits, Digits digits ∧ fraction = '.' :: digits
  hexponent : exponent = [] ∨ ∃ mark ∈ ['e', 'E'], ∃ sign ∈ [[], ['+'], ['-']], ∃ digits,
    Digits digits ∧ exponent = mark :: sign ++ digits

inductive Kind where
  | value
  | elements
  | members

-- The texts of the values, and of what stands in the brackets of the arrays and objects.
inductive Spelled : Kind → List Char → Prop
  | word (text : List Char)
      (h : text ∈ ["true".toList, "false".toList, "null".toList]) : Spelled .value text
  | number (sign whole fraction exponent : List Char) (h : Number sign whole fraction exponent) :
      Spelled .value (sign ++ whole ++ fraction ++ exponent)
  | string (body : List Char) (h : Body body) : Spelled .value (quoted body)
  | emptyArray (gap : List Char) (hgap : ∀ letter ∈ gap, isBlank letter = true) :
      Spelled .value ('[' :: gap ++ [']'])
  | array (elements : List Char) (h : Spelled .elements elements) :
      Spelled .value ('[' :: elements ++ [']'])
  | emptyObject (gap : List Char) (hgap : ∀ letter ∈ gap, isBlank letter = true) :
      Spelled .value ('\x7b' :: gap ++ ['\x7d'])
  | object (members : List Char) (h : Spelled .members members) :
      Spelled .value ('\x7b' :: members ++ ['\x7d'])
  | element (before value after : List Char) (hbefore : ∀ letter ∈ before, isBlank letter = true)
      (h : Spelled .value value) (hafter : ∀ letter ∈ after, isBlank letter = true) :
      Spelled .elements (before ++ value ++ after)
  | elements (first others : List Char) (hfirst : Spelled .elements first)
      (hothers : Spelled .elements others) : Spelled .elements (first ++ [','] ++ others)
  | member (before name colon gap value after : List Char)
      (hbefore : ∀ letter ∈ before, isBlank letter = true) (hname : Body name)
      (hcolon : ∀ letter ∈ colon, isBlank letter = true)
      (hgap : ∀ letter ∈ gap, isBlank letter = true) (h : Spelled .value value)
      (hafter : ∀ letter ∈ after, isBlank letter = true) :
      Spelled .members (before ++ quoted name ++ colon ++ [':'] ++ gap ++ value ++ after)
  | members (first others : List Char) (hfirst : Spelled .members first)
      (hothers : Spelled .members others) : Spelled .members (first ++ [','] ++ others)

-- A text of an object.
def IsObject (text : List Char) : Prop := Spelled .value text ∧ text.head? = some '\x7b'

-- The letters that stand outside the strings.
def isOutside (letter : Char) : Bool :=
  letter.isDigit || letter ∈ " \t\n\x0d[]\x7b\x7d,:+-.trufalsenE".toList

section Apart

variable {inner control : Char}

def NotBeside (inner control : Char) (first second : Char) : Prop :=
  ¬(first = inner ∧ second = control) ∧ ¬(first = control ∧ second = inner)

-- A letter stands nowhere next to another one, and at neither end.
structure Apart (inner control : Char) (text : List Char) : Prop where
  chain : text.IsChain (NotBeside inner control)
  head : inner ∉ text.head?
  last : inner ∉ text.getLast?

theorem Apart.append {first second : List Char} (hfirst : Apart inner control first)
    (hsecond : Apart inner control second) : Apart inner control (first ++ second) := by
  refine ⟨hfirst.chain.append hsecond.chain fun x hx y hy => ⟨?_, ?_⟩, ?_, ?_⟩
  · rintro ⟨rfl, -⟩
    exact hfirst.last hx
  · rintro ⟨-, rfl⟩
    exact hsecond.head hy
  · rw [List.head?_append]
    cases hhead : first.head? with
    | none => exact hsecond.head
    | some letter => exact fun hmem => hfirst.head (hhead ▸ hmem)
  · rw [List.getLast?_append]
    cases hlast : second.getLast? with
    | none => exact hfirst.last
    | some letter => exact fun hmem => hsecond.last (hlast ▸ hmem)

theorem apart_of_not_mem {text : List Char} (h : inner ∉ text) : Apart inner control text := by
  refine ⟨?_, fun hmem => h (List.mem_of_mem_head? hmem),
    fun hmem => h (List.mem_of_mem_getLast? hmem)⟩
  induction text with
  | nil => exact List.isChain_nil
  | cons letter rest ih =>
    have hletter := List.ne_of_not_mem_cons h
    have hrest := List.not_mem_of_not_mem_cons h
    refine List.isChain_cons.mpr ⟨fun other hother => ⟨?_, ?_⟩, ih hrest⟩
    · exact fun hboth => hletter hboth.1.symm
    · exact fun hboth => hrest (hboth.2 ▸ List.mem_of_mem_head? hother)

theorem apart_outside {text : List Char} (hinner : isOutside inner = false)
    (h : ∀ letter ∈ text, isOutside letter = true) : Apart inner control text :=
  apart_of_not_mem fun hmem => absurd ((h inner hmem).symm.trans hinner) Bool.true_eq_false.mp

-- There is no control letter in a string.
theorem control_not_mem_body {body : List Char} (h : Body body) (hcontrol : control.toNat < 0x20) :
    control ∉ body := by
  have hne : ∀ letter : Char, 0x20 ≤ letter.toNat → control ≠ letter := by
    rintro letter hletter rfl
    omega
  induction h with
  | nil => exact List.not_mem_nil
  | plain letter rest hplain _ _ _ ih =>
    exact List.not_mem_cons_of_ne_of_not_mem (hne letter hplain) ih
  | escaped letter rest hletter _ ih =>
    have hhigh : ∀ letter ∈ ['"', '\\', '/', 'b', 'f', 'n', 'r', 't'], 0x20 ≤ letter.toNat := by
      decide
    exact List.not_mem_cons_of_ne_of_not_mem (hne _ (by decide))
      (List.not_mem_cons_of_ne_of_not_mem (hne letter (hhigh letter hletter)) ih)
  | code digits rest hlength hdigits _ ih =>
    refine List.not_mem_cons_of_ne_of_not_mem (hne _ (by decide))
      (List.not_mem_cons_of_ne_of_not_mem (hne _ (by decide)) fun hmem => ?_)
    refine (List.mem_append.mp hmem).elim (fun hmem => ?_) ih
    have hhex := hdigits control hmem
    simp only [isHex, Char.isDigit, Bool.or_eq_true, Bool.and_eq_true, decide_eq_true_iff,
      UInt32.le_iff_toNat_le, Char.le_def, ge_iff_le] at hhex
    have hzero : '0'.val.toNat = 48 := rfl
    have hlow : 'a'.val.toNat = 97 := rfl
    have hhigh : 'A'.val.toNat = 65 := rfl
    have hval : control.toNat = control.val.toNat := rfl
    omega

theorem apart_quoted {body : List Char} (h : Body body) (hquote : inner ≠ '"')
    (hcontrol : control.toNat < 0x20) :
    Apart inner control (quoted body) := by
  refine ⟨?_, ?_, ?_⟩
  · have hnone : control ∉ quoted body := by
      have hbody := control_not_mem_body h hcontrol
      have hne : control ≠ '"' := by
        rintro rfl
        exact absurd hcontrol (by decide)
      simp [quoted, hbody, hne]
    have hswap : Apart control inner (quoted body) := apart_of_not_mem hnone
    refine hswap.chain.imp fun x y hxy => ⟨?_, ?_⟩
    · exact fun hboth => hxy.2 hboth
    · exact fun hboth => hxy.1 hboth
  · exact fun hmem => hquote (Option.mem_some.mp hmem).symm
  · rw [quoted, List.getLast?_append]
    exact fun hmem => hquote (Option.mem_some.mp hmem).symm

theorem blank_outside {gap : List Char} (h : ∀ letter ∈ gap, isBlank letter = true) :
    ∀ letter ∈ gap, isOutside letter = true := by
  have hblank : ∀ letter ∈ [' ', '\t', '\n', '\x0d'], isOutside letter = true := by decide
  exact fun letter hletter => hblank letter (of_decide_eq_true (h letter hletter))

theorem digits_outside {digits : List Char} (h : Digits digits) :
    ∀ letter ∈ digits, isOutside letter = true := by
  intro letter hletter
  rw [isOutside, h.2 letter hletter, Bool.true_or]

theorem number_outside {sign whole fraction exponent : List Char}
    (h : Number sign whole fraction exponent) :
    ∀ letter ∈ sign ++ whole ++ fraction ++ exponent, isOutside letter = true := by
  have hsigns : ∀ sign ∈ [[], ['+'], ['-']], ∀ letter ∈ sign, isOutside letter = true := by decide
  have hmarks : ∀ mark ∈ ['e', 'E'], isOutside mark = true := by decide
  simp only [List.forall_mem_append]
  refine ⟨⟨⟨hsigns sign ?_, digits_outside h.hwhole⟩, ?_⟩, ?_⟩
  · rcases List.mem_cons.mp h.hsign with hplain | hminus
    · exact hplain ▸ List.mem_cons_self
    · exact List.mem_cons_of_mem _ (List.mem_cons_of_mem _ hminus)
  · rcases h.hfraction with rfl | ⟨digits, hdigits, rfl⟩
    · exact fun _ hletter => absurd hletter List.not_mem_nil
    · exact List.forall_mem_cons.mpr ⟨by decide, digits_outside hdigits⟩
  · rcases h.hexponent with rfl | ⟨mark, hmark, other, hother, digits, hdigits, rfl⟩
    · exact fun _ hletter => absurd hletter List.not_mem_nil
    · rw [List.cons_append]
      exact List.forall_mem_cons.mpr ⟨hmarks mark hmark,
        List.forall_mem_append.mpr ⟨hsigns other hother, digits_outside hdigits⟩⟩

-- A letter that is none of those outside the strings stands next to no control letter.
theorem Spelled.apart {kind : Kind} {text : List Char} (h : Spelled kind text)
    (hinner : isOutside inner = false) (hquote : inner ≠ '"') (hcontrol : control.toNat < 0x20) :
    Apart inner control text := by
  have hplain : ∀ {part : List Char}, (∀ letter ∈ part, isOutside letter = true) →
      Apart inner control part := apart_outside hinner
  have hmark : ∀ {letter : Char}, isOutside letter = true → Apart inner control [letter] :=
    fun hletter => hplain (List.forall_mem_singleton.mpr hletter)
  induction h with
  | word text hword =>
    have hwords : ∀ text ∈ ["true".toList, "false".toList, "null".toList], ∀ letter ∈ text,
        isOutside letter = true := by decide
    exact hplain (hwords text hword)
  | number sign whole fraction exponent hnumber => exact hplain (number_outside hnumber)
  | string body hbody => exact apart_quoted hbody hquote hcontrol
  | emptyArray gap hgap =>
    exact ((hmark (by decide)).append (hplain (blank_outside hgap))).append (hmark (by decide))
  | array elements _ ih => exact ((hmark (by decide)).append ih).append (hmark (by decide))
  | emptyObject gap hgap =>
    exact ((hmark (by decide)).append (hplain (blank_outside hgap))).append (hmark (by decide))
  | object members _ ih => exact ((hmark (by decide)).append ih).append (hmark (by decide))
  | element before value after hbefore _ hafter ih =>
    exact ((hplain (blank_outside hbefore)).append ih).append (hplain (blank_outside hafter))
  | elements first others _ _ ihfirst ihothers =>
    exact (ihfirst.append (hmark (by decide))).append ihothers
  | member before name colon gap value after hbefore hname hcolon hgap _ hafter ih =>
    exact ((((((hplain (blank_outside hbefore)).append (apart_quoted hname hquote hcontrol)).append
      (hplain (blank_outside hcolon))).append (hmark (by decide))).append
      (hplain (blank_outside hgap))).append ih).append (hplain (blank_outside hafter))
  | members first others _ _ ihfirst ihothers =>
    exact (ihfirst.append (hmark (by decide))).append ihothers

-- An object ends with the brace that closes the one with which it begins.
theorem IsObject.braces {text : List Char} (h : IsObject text) :
    ∃ inner, text = '\x7b' :: inner ++ ['\x7d'] := by
  obtain ⟨hvalue, hhead⟩ := h
  cases hvalue with
  | emptyObject gap _ => exact ⟨gap, rfl⟩
  | object members _ => exact ⟨members, rfl⟩
  | word text hword =>
    have hwords : ∀ text ∈ ["true".toList, "false".toList, "null".toList],
        text.head? ≠ some '\x7b' := by decide
    exact absurd hhead (hwords text hword)
  | number sign whole fraction exponent hnumber =>
    obtain ⟨hne, hdigits⟩ := hnumber.hwhole
    obtain ⟨digit, rest, rfl⟩ := List.exists_cons_of_ne_nil hne
    rcases List.mem_cons.mp hnumber.hsign with rfl | hminus
    · obtain rfl := Option.some.inj hhead
      exact absurd (hdigits _ List.mem_cons_self) (by decide)
    · obtain rfl := List.mem_singleton.mp hminus
      exact absurd hhead (by simp)
  | string body _ => exact absurd hhead (by simp [quoted])
  | emptyArray gap _ => exact absurd hhead (by simp)
  | array elements _ => exact absurd hhead (by simp)

end Apart

end Troubleshooter.Library.Json
