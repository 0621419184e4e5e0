import Troubleshooter.Capability.Importer
import Troubleshooter.Gateway.Pinning
import Troubleshooter.Library.Checks
import Troubleshooter.Library.Paths
import Troubleshooter.Platform.Capabilities

-- Where the calls of an imported capability go.
namespace Troubleshooter.Admission

open Troubleshooter.Library

-- A scheme ends at the first of these, which is to be a colon.
def schemeEnd (letter : Char) : Bool := letter ∈ [':', '/', '?', '#']

def authorityEnd (letter : Char) : Bool := letter ∈ ['/', '?', '#']

def pathEnd (letter : Char) : Bool := letter ∈ ['?', '#']

def afterScheme (url : List Char) : List Char :=
  match url.span (!schemeEnd ·) with
  | (_ :: _, ':' :: rest) => rest
  | _ => url

def afterAuthority : List Char → List Char
  | '/' :: '/' :: rest => rest.dropWhile (!authorityEnd ·)
  | rest => rest

-- The path of a URL, without its query and its fragment.
def pathOf (url : String) : List Char :=
  (afterAuthority (afterScheme url.toList)).takeWhile (!pathEnd ·)

-- A dot may be written as %2e.
def dots : List Char → List Char
  | '%' :: '2' :: 'e' :: rest => '.' :: dots rest
  | '%' :: '2' :: 'E' :: rest => '.' :: dots rest
  | letter :: rest => letter :: dots rest
  | [] => []

def segmentOf (letters : List Char) : String :=
  if dots letters = ['.'] then "." else if dots letters = ['.', '.'] then ".." else
    String.ofList letters

-- The segments of a path, which begin after its first slash.
def segmentsOf (path : List Char) : List String :=
  ((match path with
    | '/' :: rest => rest
    | path => path).splitOn '/').map segmentOf

-- Dot segments are resolved; one at the end leaves a slash.
def resolved (segments : List String) : List String :=
  Paths.resolve "." ".." segments ++
    if segments.getLast? = some "." ∨ segments.getLast? = some ".." then [""] else []

-- A path is under /readonly/ where this is one of its segments, and not the last one.
def UnderReadonly (url : String) : Prop :=
  ∃ above below, resolved (segmentsOf (pathOf url)) = above ++ "readonly" :: below ∧ below ≠ []

-- A readonly segment that stands before the last one is not left again by what follows it.
def Staying (segments : List String) : Prop :=
  ∃ before after, segments = before ++ "readonly" :: after ∧ after ≠ [] ∧
    Paths.Stays "." ".." after

theorem resolve_ne_nil_of_last {segments : List String} {last : String}
    (hown : last ≠ "." ∧ last ≠ "..") :
    Paths.resolve "." ".." (segments ++ [last]) ≠ [] := by
  rw [Paths.resolve_concat, Paths.step, if_neg hown.1, if_neg hown.2]
  exact List.append_ne_nil_of_right_ne_nil _ (List.cons_ne_nil _ _)

theorem underReadonly_iff (url : String) :
    UnderReadonly url ↔ Staying (segmentsOf (pathOf url)) := by
  unfold UnderReadonly Staying
  generalize segmentsOf (pathOf url) = segments
  constructor
  · rintro ⟨above, below, hresolved, hbelow⟩
    unfold resolved at hresolved
    split at hresolved
    next hdots =>
      rcases List.eq_nil_or_concat below with rfl | ⟨init, last, rfl⟩
      · exact absurd rfl hbelow
      rw [List.concat_eq_append, ← List.cons_append, ← List.append_assoc] at hresolved
      obtain ⟨hrest, -⟩ := List.append_inj' hresolved rfl
      obtain ⟨before, after, rfl, -, -, hstays, -⟩ := (Paths.resolve_eq_iff (by decide)).mp hrest
      refine ⟨before, after, rfl, ?_, hstays⟩
      rintro rfl
      rw [List.getLast?_concat] at hdots
      exact absurd hdots (by decide)
    next =>
      rw [List.append_nil] at hresolved
      obtain ⟨before, after, rfl, -, -, hstays, hafter⟩ :=
        (Paths.resolve_eq_iff (by decide)).mp hresolved
      refine ⟨before, after, rfl, ?_, hstays⟩
      rintro rfl
      exact hbelow hafter.symm
  · rintro ⟨before, after, rfl, hne, hstays⟩
    have hresolve := (Paths.resolve_eq_iff (by decide)).mpr
      ⟨before, after, rfl, (by decide : Paths.own "." ".." "readonly" = true), rfl, hstays, rfl⟩
    refine ⟨_, _, by rw [resolved, hresolve, List.append_assoc, List.cons_append], ?_⟩
    rcases List.eq_nil_or_concat after with rfl | ⟨init, last, rfl⟩
    · exact absurd rfl hne
    rw [List.concat_eq_append]
    by_cases hlast : last = "." ∨ last = ".."
    · have hdots : (before ++ "readonly" :: (init ++ [last])).getLast? = some last := by
        rw [← List.cons_append, ← List.append_assoc, List.getLast?_concat]
      rw [hdots, if_pos (by simpa using hlast)]
      exact List.append_ne_nil_of_right_ne_nil _ (List.cons_ne_nil _ _)
    · exact List.append_ne_nil_of_left_ne_nil (resolve_ne_nil_of_last (not_or.mp hlast)) _

-- The URL that the connector of a capability asks.
def urlOf (host : Gateway.Host) (baseURL path : String) : Except Go.Error String := do
  let baseURL ← Gateway.newGenericReadonlyConnector host baseURL
  return baseURL ++ path

-- The base URL and the path of a capability that one of the importers does not reject.
inductive Accepted : String → String → Prop
  | go (go : Go.Runtime) (req : Capability.ImportRequest) (service : Capability.BusinessService)
    (item : Capability.Data) (row : Capability.ToolCapability)
    (h : Capability.httpCapability go req service item = some row)
    (hsafe : row.safetyStatus ≠ "rejected") : Accepted row.readonlyBaseURL row.readonlyPath
  | python (host : Platform.ImportHost) (serviceName baseURL secretRef : String)
    (item : Platform.Dict) (row : Platform.ToolItem)
    (h : Platform.capabilityItem host serviceName baseURL secretRef item = .ok (some row))
    (hsafe : row.safetyStatus ≠ "rejected") : Accepted row.readonlyBaseURL row.readonlyPath

-- Both importers look for the text in the path as it is written.
theorem Accepted.contains {baseURL path : String} (h : Accepted baseURL path) :
    Text.Contains path "/readonly/" := by
  cases h with
  | go go req service item row h hsafe =>
    unfold Capability.httpCapability at h
    dsimp only at h
    split at h
    next => exact nomatch h
    next =>
      obtain rfl := Option.some.inj h
      by_contra hnot
      exact hsafe (by simp [Capability.assessImport, hnot, Capability.safetyRejected])
  | python host serviceName baseURL secretRef item row h hsafe =>
    unfold Platform.capabilityItem at h
    dsimp only at h
    split at h
    next => exact nomatch h
    next =>
      simp only [Checks.bind_eq_ok] at h
      obtain ⟨required, -, optional, -, range, -, limit, -, timeout, -, h⟩ := h
      obtain rfl := Option.some.inj (Except.ok.inj h)
      by_contra hnot
      exact hsafe (by simp [hnot])

-- The segments of the path that a connector with this base URL asks.
def askedSegments (baseURL path : String) : List String :=
  segmentsOf (pathOf (Go.trimRight (Go.trimSpace baseURL) "/" ++ path))

-- The path of an accepted capability says /readonly/, but what is asked is under it only where
-- the segment is not cut off by a query or a fragment and not left again.
theorem accepted_contained_iff {host : Gateway.Host} {baseURL path url : String}
    (haccepted : Accepted baseURL path) (hurl : urlOf host baseURL path = .ok url) :
    Text.Contains path "/readonly/" ∧
      (UnderReadonly url ↔ Staying (askedSegments baseURL path)) := by
  refine ⟨haccepted.contains, ?_⟩
  have heq : url = Go.trimRight (Go.trimSpace baseURL) "/" ++ path := by
    unfold urlOf Gateway.newGenericReadonlyConnector at hurl
    dsimp only at hurl
    split at hurl
    next => exact nomatch hurl
    next =>
      split at hurl
      next => exact nomatch hurl
      next => exact (Except.ok.inj hurl).symm
  rw [heq]
  exact underReadonly_iff _

namespace Sample

def ordersService : Capability.BusinessService :=
  { serviceName := "orders", baseURL := "http://orders:8080/" }

-- The row of a tool whose path is as given.
def orderRow (path : String) : Option Capability.ToolCapability :=
  Capability.httpCapability .ascii { rawConfig := "" } ordersService
    [("tool_name", .str "get_order"), ("path", .str path)]

end Sample

theorem sample_accepted {path : String} (h : (Sample.orderRow path).any fun row =>
    row.safetyStatus != "rejected" && row.readonlyBaseURL == "http://orders:8080/" &&
      row.readonlyPath == path) :
    Accepted "http://orders:8080/" path := by
  cases hrow : Sample.orderRow path with
  | none => rw [hrow] at h; exact nomatch h
  | some row =>
    rw [hrow, Option.any_some, Bool.and_eq_true, Bool.and_eq_true, bne_iff_ne, beq_iff_eq,
      beq_iff_eq] at h
    obtain ⟨⟨hsafe, hbaseURL⟩, hpath⟩ := h
    rw [← hbaseURL, ← hpath]
    exact .go .ascii _ _ _ row hrow hsafe

theorem urlOf_order (path : String) :
    urlOf Gateway.fewTextsHost "http://orders:8080/" path =
      .ok ("http://orders:8080" ++ path) := by
  have hconnector : Gateway.newGenericReadonlyConnector Gateway.fewTextsHost
      "http://orders:8080/" = .ok "http://orders:8080" := by
    decide +kernel
  rw [urlOf, hconnector]
  rfl

theorem accepted_contained_order :
    UnderReadonly ("http://orders:8080" ++ "/v1/readonly/order") := by
  refine (accepted_contained_iff (sample_accepted (by decide +kernel)) (urlOf_order _)).2.mpr ?_
  have hsegments : askedSegments "http://orders:8080/" "/v1/readonly/order" =
      ["v1", "readonly", "order"] := by
    decide +kernel
  rw [hsegments]
  exact ⟨["v1"], ["order"], rfl, by decide,
    (Paths.stays_nil : Paths.Stays "." ".." []).concat (by decide)⟩

-- The text is in the path, and is gone once the path is resolved.
theorem not_contained_order :
    ¬∀ (host : Gateway.Host) (baseURL path url : String), Accepted baseURL path →
      urlOf host baseURL path = .ok url → UnderReadonly url := by
  intro hall
  obtain ⟨above, below, hresolved, -⟩ := hall _ _ "/v1/readonly/../orders" _
    (sample_accepted (by decide +kernel)) (urlOf_order _)
  have hmem : "readonly" ∈ above ++ "readonly" :: below := by simp
  rw [← hresolved] at hmem
  exact absurd hmem (by decide +kernel)

end Troubleshooter.Admission
