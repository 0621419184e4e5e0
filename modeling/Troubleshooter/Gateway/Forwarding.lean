import Troubleshooter.Gateway.Dynamic
import Troubleshooter.Go.Writes

namespace Troubleshooter.Gateway

open Troubleshooter.Library
open Troubleshooter.Go (Map)
open Troubleshooter.Tool (Arguments)

-- What encoding/json makes of a text, none where it is malformed. An object is decoded into
-- a map, which has each key once.
structure Decoder where
  parse : String → Option Value
  distinct : ∀ raw entries, parse raw = some (.map entries) → (Reconcile.keys entries).Nodup

-- A value that a string can be decoded from, and the string; what does not fit leaves it empty
-- and lets the decoder go on to its error.
def fitsText : Value → Bool
  | .str _ => true
  | .null => true
  | _ => false

def textOf : Value → String
  | .str text => text
  | _ => ""

-- json.Unmarshal into an empty map[string]string, an empty map[string]any and an empty []string:
-- what is there afterwards, and whether there was no error.
def unmarshalTexts : Option Value → List (String × String) × Bool
  | some (.map entries) =>
    (entries.map fun entry => (entry.1, textOf entry.2), entries.all fun entry => fitsText entry.2)
  | some .null => ([], true)
  | _ => ([], false)

def unmarshalAny : Option Value → List (String × Value) × Bool
  | some (.map entries) => (entries, true)
  | some .null => ([], true)
  | _ => ([], false)

def unmarshalList : Option Value → List String × Bool
  | some (.list items) => (items.map textOf, items.all fitsText)
  | some .null => ([], true)
  | _ => ([], false)

-- The map that the handler reads from a text, whose error it drops.
def paramMapOf (decoder : Decoder) (raw : String) : List (String × String) :=
  if Go.trimSpace raw = "" then [] else (unmarshalTexts (decoder.parse raw)).1

def fixedParamsOf (decoder : Decoder) (raw : String) : List (String × Value) :=
  if Go.trimSpace raw = "" then [] else (unmarshalAny (decoder.parse raw)).1

-- What the param map writes, in the order in which it is ranged over.
def mapped (args : Arguments) (paramMap : List (String × String)) : List (String × Value) :=
  paramMap.filterMap fun entry =>
    if entry.2 = "" then none else (args.lookup entry.1).map fun value => (entry.2, value)

-- The three loops, over the arguments, the param map and the fixed params in the order of each.
def dynamicArgs (args : Arguments) (paramMap : List (String × String))
    (fixed : List (String × Value)) : Map String Value :=
  ((Map.setAll ∅ args).setAll (mapped args paramMap)).setAll fixed

-- The loop over the required params ends at the first one that is missing.
def missing (go : Go.Runtime) (args : Arguments) (name : String) : Bool :=
  match args.lookup name with
  | none => true
  | some value => Go.trimSpace (Go.sprint go value) == ""

def requireDynamicParams (go : Go.Runtime) (args : Arguments) (required : List String) :
    Option Go.Error :=
  (required.find? fun name => Go.trimSpace name != "" && missing go args name).map fun name =>
    ⟨name ++ " is required", []⟩

-- The maps that a call of a tool may forward: one for each order in which its maps are ranged
-- over, none where a required param is missing.
def DynamicHandler.Forwards (go : Go.Runtime) (decoder : Decoder) (closure : DynamicHandler)
    (args : Arguments) (out : Map String Value) : Prop :=
  requireDynamicParams go args closure.requiredParams = none ∧
    ∃ args' paramMap fixed, args'.Perm args ∧
      paramMap.Perm (paramMapOf decoder closure.item.paramMapJSON) ∧
      fixed.Perm (fixedParamsOf decoder closure.item.fixedParamsJSON) ∧
      out = dynamicArgs args' paramMap fixed

section Sent

-- A value that a call may forward under a name: what is fixed, else what is given under a name
-- that is mapped to it, else what is given under the name itself.
inductive Sent (args : Arguments) (paramMap : List (String × String))
    (fixed : List (String × Value)) (name : String) (value : Value) : Prop where
  | fixed (hfixed : (name, value) ∈ fixed)
  | mapped (hfixed : name ∉ Reconcile.keys fixed) (hmapped : (name, value) ∈ mapped args paramMap)
  | own (hfixed : name ∉ Reconcile.keys fixed)
      (hmapped : name ∉ Reconcile.keys (mapped args paramMap)) (hown : (name, value) ∈ args)

theorem mem_mapped_iff {args : Arguments} {paramMap : List (String × String)} {name : String}
    {value : Value} : (name, value) ∈ mapped args paramMap ↔
      name ≠ "" ∧ ∃ source, (source, name) ∈ paramMap ∧ args.lookup source = some value := by
  unfold mapped
  rw [List.mem_filterMap]
  constructor
  · rintro ⟨⟨source, target⟩, hentry, hpick⟩
    dsimp only at hpick
    split at hpick
    next => exact nomatch hpick
    next hname =>
      obtain ⟨found, hfound, heq⟩ := Option.map_eq_some_iff.mp hpick
      obtain ⟨rfl, rfl⟩ := Prod.mk.inj heq
      exact ⟨hname, source, hentry, hfound⟩
  · rintro ⟨hname, source, hentry, hvalue⟩
    refine ⟨(source, name), hentry, ?_⟩
    dsimp only
    rw [if_neg hname, hvalue]
    rfl

theorem get?_dynamicArgs (args : Arguments) (paramMap : List (String × String))
    (fixed : List (String × Value)) :
    (dynamicArgs args paramMap fixed).get? =
      Reconcile.install (Reconcile.install (Reconcile.install (fun _ => none) args)
        (mapped args paramMap)) fixed := by
  have hempty : (∅ : Map String Value).get? = fun _ => none := funext fun key => by simp
  unfold dynamicArgs
  rw [Map.get?_setAll, Map.get?_setAll, Map.get?_setAll, hempty]

variable {args args' : Arguments} {paramMap paramMap' : List (String × String)}
  {fixed fixed' : List (String × Value)}

theorem mapped_perm (hargs : (Reconcile.keys args).Nodup) (hargs' : args'.Perm args)
    (hparamMap : paramMap'.Perm paramMap) : (mapped args' paramMap').Perm (mapped args paramMap) := by
  have hlookup : ∀ name, args'.lookup name = args.lookup name := fun name =>
    Reconcile.lookup_perm hargs' hargs
  unfold mapped
  simp only [hlookup]
  exact hparamMap.filterMap _

-- Whatever the order, what is forwarded is one of these values.
theorem sent_of_get? (hargs : (Reconcile.keys args).Nodup) (hargs' : args'.Perm args)
    (hparamMap : paramMap'.Perm paramMap) (hfixed' : fixed'.Perm fixed) {name : String}
    {value : Value} (h : (dynamicArgs args' paramMap' fixed').get? name = some value) :
    Sent args paramMap fixed name value := by
  have hkeys : ∀ {ε : Type} {entries entries' : List (String × ε)}, entries'.Perm entries →
      name ∉ Reconcile.keys entries' → name ∉ Reconcile.keys entries :=
    fun hperm hnone hmem => hnone ((hperm.map Prod.fst).mem_iff.mpr hmem)
  have hmapped' := mapped_perm hargs hargs' hparamMap
  rw [get?_dynamicArgs] at h
  rcases Reconcile.install_cases _ fixed' name with ⟨hnone, heq⟩ | ⟨other, hother, heq⟩
  · rw [heq] at h
    rcases Reconcile.install_cases _ (mapped args' paramMap') name with
      ⟨hunmapped, heq⟩ | ⟨other, hother, heq⟩
    · rw [heq] at h
      rcases Reconcile.install_cases _ args' name with ⟨-, heq⟩ | ⟨other, hother, heq⟩
      · rw [heq] at h
        exact nomatch h
      · rw [heq] at h
        obtain rfl := Option.some.inj h
        exact .own (hkeys hfixed' hnone) (hkeys hmapped' hunmapped) (hargs'.mem_iff.mp hother)
    · rw [heq] at h
      obtain rfl := Option.some.inj h
      exact .mapped (hkeys hfixed' hnone) (hmapped'.mem_iff.mp hother)
  · rw [heq] at h
    obtain rfl := Option.some.inj h
    exact .fixed (hfixed'.mem_iff.mp hother)

-- And what is neither fixed, nor mapped to, nor given is not forwarded.
theorem get?_isSome_iff {name : String} :
    ((dynamicArgs args paramMap fixed).get? name).isSome ↔
      name ∈ Reconcile.keys fixed ∨ name ∈ Reconcile.keys (mapped args paramMap) ∨
        name ∈ Reconcile.keys args := by
  rw [get?_dynamicArgs]
  constructor
  · intro hsome
    by_contra hnone
    simp only [not_or] at hnone
    rw [Reconcile.install_of_not_mem _ _ _ hnone.1, Reconcile.install_of_not_mem _ _ _ hnone.2.1,
      Reconcile.install_of_not_mem _ _ _ hnone.2.2] at hsome
    cases hsome
  · rintro (hfixed | hmapped | hown)
    · exact Reconcile.install_isSome _ _ _ (.inr hfixed)
    · exact Reconcile.install_isSome _ _ _ (.inl (Reconcile.install_isSome _ _ _ (.inr hmapped)))
    · exact Reconcile.install_isSome _ _ _ (.inl (Reconcile.install_isSome _ _ _
        (.inl (Reconcile.install_isSome _ _ _ (.inr hown)))))

-- A value is forwarded once the order puts it last among those that are mapped to the name.
theorem get?_of_sent (hargs : (Reconcile.keys args).Nodup) (hfixed : (Reconcile.keys fixed).Nodup)
    (hparamMap : paramMap'.Perm paramMap) {name : String} {value : Value}
    (h : Sent args paramMap fixed name value)
    (hlast : (name, value) ∈ mapped args paramMap →
      ∀ table, Reconcile.install table (mapped args paramMap') name = some value) :
    (dynamicArgs args paramMap' fixed).get? name = some value := by
  rw [get?_dynamicArgs]
  cases h with
  | fixed hvalue => exact Reconcile.install_of_mem _ fixed hfixed name value hvalue
  | mapped hnone hvalue => rw [Reconcile.install_of_not_mem _ _ _ hnone, hlast hvalue]
  | own hnone hunmapped hvalue =>
    have hkeys := ((mapped_perm hargs (.refl _) hparamMap).map Prod.fst).mem_iff (a := name)
    rw [Reconcile.install_of_not_mem _ _ _ hnone,
      Reconcile.install_of_not_mem _ _ _ fun hmem => hunmapped (hkeys.mp hmem)]
    exact Reconcile.install_of_mem _ args hargs name value hvalue

-- Under one name each of these values is forwarded in some order.
theorem exists_get?_of_sent (hargs : (Reconcile.keys args).Nodup)
    (hfixed : (Reconcile.keys fixed).Nodup) {name : String} {value : Value}
    (h : Sent args paramMap fixed name value) :
    ∃ paramMap' : List (String × String), paramMap'.Perm paramMap ∧
      (dynamicArgs args paramMap' fixed).get? name = some value := by
  by_cases hvalue : (name, value) ∈ mapped args paramMap
  · obtain ⟨entries, hentries, hlast⟩ := Reconcile.exists_perm_install hvalue
    obtain ⟨paramMap', hparamMap, rfl⟩ := Reconcile.exists_perm_filterMap _ _ hentries
    exact ⟨paramMap', hparamMap, get?_of_sent hargs hfixed hparamMap h fun _ => hlast⟩
  · exact ⟨paramMap, .refl _, get?_of_sent hargs hfixed (.refl _) h fun h => absurd h hvalue⟩

-- Two names do not get in each other's way, as an argument is mapped to one name only.
theorem exists_get?_of_sent_two (hargs : (Reconcile.keys args).Nodup)
    (hfixed : (Reconcile.keys fixed).Nodup) {first second : String} (hne : first ≠ second)
    {value other : Value} (hfirst : Sent args paramMap fixed first value)
    (hsecond : Sent args paramMap fixed second other) :
    ∃ paramMap' : List (String × String), paramMap'.Perm paramMap ∧
      (dynamicArgs args paramMap' fixed).get? first = some value ∧
      (dynamicArgs args paramMap' fixed).get? second = some other := by
  by_cases hvalue : (first, value) ∈ mapped args paramMap
  · by_cases hother : (second, other) ∈ mapped args paramMap
    · obtain ⟨entries, hentries, hlast⟩ := Reconcile.exists_perm_install_two hne hvalue hother
      obtain ⟨paramMap', hparamMap, rfl⟩ := Reconcile.exists_perm_filterMap _ _ hentries
      exact ⟨paramMap', hparamMap,
        get?_of_sent hargs hfixed hparamMap hfirst fun _ table => (hlast table).1,
        get?_of_sent hargs hfixed hparamMap hsecond fun _ table => (hlast table).2⟩
    · obtain ⟨paramMap', hparamMap, hget⟩ := exists_get?_of_sent hargs hfixed hfirst
      exact ⟨paramMap', hparamMap, hget,
        get?_of_sent hargs hfixed hparamMap hsecond fun h => absurd h hother⟩
  · obtain ⟨paramMap', hparamMap, hget⟩ := exists_get?_of_sent hargs hfixed hsecond
    exact ⟨paramMap', hparamMap,
      get?_of_sent hargs hfixed hparamMap hfirst fun h => absurd h hvalue, hget⟩

-- Where the mapped values agree there is one value for the name.
theorem Sent.unique (hargs : (Reconcile.keys args).Nodup) (hfixed : (Reconcile.keys fixed).Nodup)
    {name : String} {value other : Value}
    (hagree : name ∉ Reconcile.keys fixed → name ≠ "" → ∀ first second,
      (first, name) ∈ paramMap → (second, name) ∈ paramMap →
        args.lookup first = some value → args.lookup second = some other → value = other)
    (hvalue : Sent args paramMap fixed name value)
    (hother : Sent args paramMap fixed name other) : value = other := by
  have hsame : ∀ {entries : List (String × Value)}, (Reconcile.keys entries).Nodup →
      (name, value) ∈ entries → (name, other) ∈ entries → value = other := by
    intro entries hnodup hfirst hsecond
    exact Option.some.inj (((Reconcile.lookup_eq_some_iff hnodup value).mpr hfirst).symm.trans
      ((Reconcile.lookup_eq_some_iff hnodup other).mpr hsecond))
  have hkey : ∀ {entries : List (String × Value)} {found : Value}, (name, found) ∈ entries →
      name ∈ Reconcile.keys entries := fun hmem => Reconcile.mem_keys hmem
  cases hvalue with
  | fixed hvalue =>
    cases hother with
    | fixed hother => exact hsame hfixed hvalue hother
    | mapped hnone _ => exact absurd (hkey hvalue) hnone
    | own hnone _ _ => exact absurd (hkey hvalue) hnone
  | mapped hnone hvalue =>
    cases hother with
    | fixed hother => exact absurd (hkey hother) hnone
    | mapped _ hother =>
      obtain ⟨hname, first, hfirst, hvalue⟩ := mem_mapped_iff.mp hvalue
      obtain ⟨-, second, hsecond, hother⟩ := mem_mapped_iff.mp hother
      exact hagree hnone hname first second hfirst hsecond hvalue hother
    | own _ hunmapped _ => exact absurd (hkey hvalue) hunmapped
  | own hnone hunmapped hvalue =>
    cases hother with
    | fixed hother => exact absurd (hkey hother) hnone
    | mapped _ hother => exact absurd (hkey hother) hunmapped
    | own _ _ hother => exact hsame hargs hvalue hother

end Sent

-- The forwarded map is the same whatever orders Go ranges over the three maps in.
def OrderFree (args : Arguments) (paramMap : List (String × String))
    (fixed : List (String × Value)) : Prop :=
  ∀ args' paramMap' fixed', args'.Perm args → paramMap'.Perm paramMap → fixed'.Perm fixed →
    (dynamicArgs args' paramMap' fixed').get? = (dynamicArgs args paramMap fixed).get?

-- The order matters exactly where two given arguments with different values are mapped to one
-- name that is not fixed.
theorem dynamicArgs_orderFree_iff (args : Arguments) (paramMap : List (String × String))
    (fixed : List (String × Value)) (hargs : (Reconcile.keys args).Nodup)
    (hfixed : (Reconcile.keys fixed).Nodup) :
    OrderFree args paramMap fixed ↔
      ∀ target, target ≠ "" → target ∉ Reconcile.keys fixed →
        ∀ first second, (first, target) ∈ paramMap → (second, target) ∈ paramMap →
          ∀ value other, args.lookup first = some value → args.lookup second = some other →
            value = other := by
  constructor
  · intro hfree target htarget hnone first second hfirst hsecond value other hvalue hother
    have hsent : ∀ found, (∃ source, (source, target) ∈ paramMap ∧
        args.lookup source = some found) →
        (dynamicArgs args paramMap fixed).get? target = some found := by
      intro found hfound
      obtain ⟨paramMap', hparamMap, hget⟩ := exists_get?_of_sent hargs hfixed
        (.mapped hnone (mem_mapped_iff.mpr ⟨htarget, hfound⟩))
      rw [← hget]
      exact (congrFun (hfree args paramMap' fixed (.refl _) hparamMap (.refl _)) target).symm
    exact Option.some.inj ((hsent value ⟨first, hfirst, hvalue⟩).symm.trans
      (hsent other ⟨second, hsecond, hother⟩))
  · intro hagree args' paramMap' fixed' hargs' hparamMap hfixed'
    have honly : ∀ {name value other}, Sent args paramMap fixed name value →
        Sent args paramMap fixed name other → value = other := by
      intro name value other hvalue hother
      refine hvalue.unique hargs hfixed (fun hnone htarget first second => ?_) hother
      exact fun hfirst hsecond => hagree name htarget hnone first second hfirst hsecond _ _
    funext name
    have hsome : ((dynamicArgs args' paramMap' fixed').get? name).isSome ↔
        ((dynamicArgs args paramMap fixed).get? name).isSome := by
      have hmapped := mapped_perm hargs hargs' hparamMap
      rw [get?_isSome_iff, get?_isSome_iff]
      exact or_congr (hfixed'.map Prod.fst).mem_iff
        (or_congr (hmapped.map Prod.fst).mem_iff (hargs'.map Prod.fst).mem_iff)
    cases hget : (dynamicArgs args paramMap fixed).get? name with
    | none =>
      rw [hget] at hsome
      exact Option.not_isSome_iff_eq_none.mp fun h => absurd (hsome.mp h) (by simp)
    | some value =>
      rw [hget] at hsome
      obtain ⟨other, hother⟩ := Option.isSome_iff_exists.mp (hsome.mpr rfl)
      have hvalue := sent_of_get? hargs (.refl _) (.refl _) (.refl _) hget
      have hother' := sent_of_get? hargs hargs' hparamMap hfixed' hother
      rw [hother, honly hvalue hother']

theorem dynamicArgs_orderFree_iff_tenant :
    OrderFree [("uid", .str "7"), ("user", .str "8")] [("uid", "user_id"), ("user", "user_id")]
        [("tenant", .str "a")] ↔
      ∀ target, target ≠ "" → target ∉ Reconcile.keys [("tenant", Value.str "a")] →
        ∀ first second,
          (first, target) ∈ [("uid", "user_id"), ("user", "user_id")] →
          (second, target) ∈ [("uid", "user_id"), ("user", "user_id")] →
          ∀ value other, [("uid", Value.str "7"), ("user", .str "8")].lookup first = some value →
            [("uid", Value.str "7"), ("user", .str "8")].lookup second = some other →
            value = other :=
  dynamicArgs_orderFree_iff _ _ _ (by decide) (by decide)

-- Two arguments of the caller are mapped to one name, and the order decides between them.
theorem dynamicArgs_unordered :
    ¬OrderFree [("uid", .str "7"), ("user", .str "8")] [("uid", "user_id"), ("user", "user_id")]
      [("tenant", .str "a")] := by
  intro hfree
  have hsame := congrFun (hfree _ [("user", "user_id"), ("uid", "user_id")] _ (.refl _)
    (.swap _ _ _) (.refl _)) "user_id"
  have hfirst : (dynamicArgs [("uid", .str "7"), ("user", .str "8")]
      [("user", "user_id"), ("uid", "user_id")] [("tenant", .str "a")]).get? "user_id" =
      some (.str "7") := rfl
  have hsecond : (dynamicArgs [("uid", .str "7"), ("user", .str "8")]
      [("uid", "user_id"), ("user", "user_id")] [("tenant", .str "a")]).get? "user_id" =
      some (.str "8") := rfl
  rw [hfirst, hsecond] at hsame
  exact absurd (Value.str.inj (Option.some.inj hsame)) (by decide)

end Troubleshooter.Gateway
