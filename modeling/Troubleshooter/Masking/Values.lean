import Troubleshooter.Masking.Token

-- The masker on values: what it replaces and what it keeps.
namespace Troubleshooter.Masking

def sensitiveKeys : List String :=
  ["phone", "mobile", "email", "id_card", "token", "secret", "api_key", "access_key", "address",
    "raw_payload"]

def sensitive (go : Go.Runtime) (key : String) : Bool := sensitiveKeys.contains (go.toLower key)

mutual

-- A value of any other kind is passed on as it is.
def maskValue (go : Go.Runtime) : Value → Value
  | .str text => .str (maskString text)
  | .list items => .list (maskItems go items)
  | .map entries => .map (maskEntries go entries)
  | value => value

def maskItems (go : Go.Runtime) : List Value → List Value
  | [] => []
  | item :: items => maskValue go item :: maskItems go items

def maskEntries (go : Go.Runtime) : List (String × Value) → List (String × Value)
  | [] => []
  | (key, child) :: entries =>
    (key, if sensitive go key then .str "[REDACTED]" else maskValue go child) ::
      maskEntries go entries

end

-- What encoding/json makes of a value that it has written: every number is a float64, and what
-- writes itself is read like any text.
structure Codec where
  go : Go.Runtime
  float64 : ℚ → ℚ
  unmarshal : String → Value

mutual

def Codec.decoded (codec : Codec) : Value → Value
  | .int value => .float (codec.float64 value)
  | .float value => .float (codec.float64 value)
  | .list items => .list (codec.decodedItems items)
  | .map entries => .map (codec.decodedEntries entries)
  | .other shown json => (json.map codec.unmarshal).getD (.other shown json)
  | value => value

def Codec.decodedItems (codec : Codec) : List Value → List Value
  | [] => []
  | item :: items => codec.decoded item :: codec.decodedItems items

def Codec.decodedEntries (codec : Codec) : List (String × Value) → List (String × Value)
  | [] => []
  | (key, child) :: entries => (key, codec.decoded child) :: codec.decodedEntries entries

end

-- The value behind a round trip through JSON, where it has one.
def Codec.roundTrip (codec : Codec) (value : Value) : Value :=
  match Go.marshal codec.go value with
  | none => value
  | some _ => codec.decoded value

def maskAny (codec : Codec) (value : Value) : Value := maskValue codec.go (codec.roundTrip value)

section Texts

mutual

-- The strings at the leaves of a value.
def texts : Value → List String
  | .str text => [text]
  | .list items => textsOfItems items
  | .map entries => textsOfEntries entries
  | _ => []

def textsOfItems : List Value → List String
  | [] => []
  | item :: items => texts item ++ textsOfItems items

def textsOfEntries : List (String × Value) → List String
  | [] => []
  | (_, child) :: entries => texts child ++ textsOfEntries entries

end

mutual

-- The keys of a value, at any depth.
def keys : Value → List String
  | .list items => keysOfItems items
  | .map entries => keysOfEntries entries
  | _ => []

def keysOfItems : List Value → List String
  | [] => []
  | item :: items => keys item ++ keysOfItems items

def keysOfEntries : List (String × Value) → List String
  | [] => []
  | (key, child) :: entries => key :: keys child ++ keysOfEntries entries

end

mutual

-- The keys of a value that do not stand under a sensitive one.
def shownKeys (go : Go.Runtime) : Value → List String
  | .list items => shownKeysOfItems go items
  | .map entries => shownKeysOfEntries go entries
  | _ => []

def shownKeysOfItems (go : Go.Runtime) : List Value → List String
  | [] => []
  | item :: items => shownKeys go item ++ shownKeysOfItems go items

def shownKeysOfEntries (go : Go.Runtime) : List (String × Value) → List String
  | [] => []
  | (key, child) :: entries =>
    key :: (if sensitive go key then [] else shownKeys go child) ++ shownKeysOfEntries go entries

end

variable {go : Go.Runtime}

theorem masked_redacted : Masked "[REDACTED]" := ⟨by decide +kernel, by decide +kernel⟩

mutual

theorem masked_texts (value : Value) : ∀ text ∈ texts (maskValue go value), Masked text := by
  cases value with
  | str text =>
    intro out hout
    rw [maskValue, texts, List.mem_singleton] at hout
    rw [hout]
    exact masked_maskString text
  | list items => exact masked_textsOfItems items
  | map entries => exact masked_textsOfEntries entries
  | _ => exact fun _ h => absurd h List.not_mem_nil

theorem masked_textsOfItems (items : List Value) :
    ∀ text ∈ textsOfItems (maskItems go items), Masked text := by
  cases items with
  | nil => exact fun _ h => absurd h List.not_mem_nil
  | cons item items =>
    intro text htext
    rcases List.mem_append.mp htext with hitem | hitems
    · exact masked_texts item text hitem
    · exact masked_textsOfItems items text hitems

theorem masked_textsOfEntries (entries : List (String × Value)) :
    ∀ text ∈ textsOfEntries (maskEntries go entries), Masked text := by
  cases entries with
  | nil => exact fun _ h => absurd h List.not_mem_nil
  | cons entry entries =>
    obtain ⟨key, child⟩ := entry
    intro text htext
    rw [maskEntries, textsOfEntries] at htext
    rcases List.mem_append.mp htext with hchild | hentries
    · split at hchild
      next =>
        rw [texts, List.mem_singleton] at hchild
        rw [hchild]
        exact masked_redacted
      next => exact masked_texts child text hchild
    · exact masked_textsOfEntries entries text hentries

end

mutual

theorem keys_maskValue (value : Value) : keys (maskValue go value) = shownKeys go value := by
  cases value with
  | list items => exact keys_maskItems items
  | map entries => exact keys_maskEntries entries
  | _ => rfl

theorem keys_maskItems (items : List Value) :
    keysOfItems (maskItems go items) = shownKeysOfItems go items := by
  cases items with
  | nil => rfl
  | cons item items =>
    rw [maskItems, keysOfItems, shownKeysOfItems, keys_maskValue, keys_maskItems]

theorem keys_maskEntries (entries : List (String × Value)) :
    keysOfEntries (maskEntries go entries) = shownKeysOfEntries go entries := by
  cases entries with
  | nil => rfl
  | cons entry entries =>
    obtain ⟨key, child⟩ := entry
    rw [maskEntries, keysOfEntries, shownKeysOfEntries, keys_maskEntries entries]
    split
    next => rfl
    next => rw [keys_maskValue child]

end

end Texts

end Troubleshooter.Masking
