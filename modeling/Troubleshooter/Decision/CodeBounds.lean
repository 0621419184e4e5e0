import Troubleshooter.Decision.CodeRanges
import Troubleshooter.Decision.Inspection

-- How much evidence an inspection comes back with.
namespace Troubleshooter.Decision

open Troubleshooter.Library Troubleshooter.Python

-- What is cut down in each hit before anything of it comes from another file.
structure Fits (hit : LocalCodeHit) : Prop where
  fewLines : hit.lineNumbers.length ≤ 8
  fewSymbols : hit.symbols.length ≤ maxSymbolsPerHit
  fewEdges : hit.callEdges.length ≤ maxCallEdgesPerHit
  shortExcerpt : (hit.codeExcerpt.length : Int) ≤ maxCodeExcerptLines

structure Unrepeated (hit : LocalCodeHit) : Prop where
  distinctEdges : (hit.callEdges.map edgeKey).Nodup
  distinctRelations : (hit.implementRelations.map relationKey).Nodup

structure HitBounded (hit : LocalCodeHit) : Prop extends Fits hit, Unrepeated hit where
  fewRelations : hit.implementRelations.length ≤ maxSymbolsPerHit

structure Bounded (maxHits : Int) (hits : List LocalCodeHit) : Prop where
  count : (hits.length : Int) ≤ max 1 maxHits
  files : (hits.map (·.filePath)).Nodup
  each : ∀ hit ∈ hits, HitBounded hit

section Direct

variable {python : Runtime} {includeSnippets : Bool} {content language : String}
  {lineNumbers : List Int} {primarySymbol : Option CodeSymbol} {range : Int × Int}

theorem lineRange_ranged (h : lineRange content lineNumbers primarySymbol language = .ok range) :
    Ranged (totalLines content) range := by
  have htotal := totalLines_pos content
  cases primarySymbol with
  | none =>
    obtain ⟨found, hfound, hranged, -⟩ :=
      @lineRange_none content language lineNumbers htotal
    exact Except.ok.inj (hfound.symm.trans h) ▸ hranged
  | some symbol =>
    obtain ⟨scope, hscope, -⟩ := Checks.bind_eq_ok.mp h
    have hscoped := @symbolScopeRange_scoped content language symbol
    rw [hscope] at hscoped
    obtain ⟨found, hfound, hranged, -⟩ :=
      @lineRange_some content language lineNumbers scope symbol htotal hscope hscoped.2.1
        hscoped.2.2
    exact Except.ok.inj (hfound.symm.trans h) ▸ hranged

theorem length_codeExcerpt {total : Int} (h : Ranged total range) :
    ((codeExcerpt content range).length : Int) ≤ maxCodeExcerptLines := by
  have hmax := maxCodeExcerptLines_eq
  obtain ⟨start, last⟩ := range
  unfold codeExcerpt
  dsimp only
  split
  next => exact Int.natCast_nonneg 14
  next hsome =>
    have hlength := List.length_filterMap_le (fun (offset : Nat) =>
      (splitlines content)[(start - 1).toNat + offset]?.map fun line =>
        ({ lineNumber := start + offset, text := sanitizeCodeLine (rstrip line) } : ExcerptLine))
      (List.range (min last (splitlines content).length - start + 1).toNat)
    rw [List.length_range] at hlength
    rcases h with hnone | ⟨-, -, -, hfits⟩
    · obtain ⟨rfl, rfl⟩ := Prod.mk.inj hnone
      omega
    · omega

theorem length_hitLineNumbers {scannedFile : ScannedFile} {structural inContent : List Int}
    (h : hitLineNumbers scannedFile primarySymbol structural inContent = .ok lineNumbers) :
    lineNumbers.length ≤ 8 := by
  cases primarySymbol with
  | none =>
    obtain rfl := Except.ok.inj h
    exact List.length_take_le 8 _
  | some symbol =>
    obtain ⟨scope, -, hlines⟩ := Checks.bind_eq_ok.mp h
    obtain rfl := Except.ok.inj hlines
    exact List.length_take_le 8 _

theorem matchScannedFile_fits {scannedFile : ScannedFile} {terms : List String}
    {hit : LocalCodeHit}
    (h : matchScannedFile python includeSnippets scannedFile terms = .ok (some hit)) :
    Fits hit := by
  unfold matchScannedFile at h
  dsimp only at h
  split at h
  next => exact nomatch h
  next =>
    obtain ⟨lineNumbers, hlines, h⟩ := Checks.bind_eq_ok.mp h
    obtain ⟨range, hrange, h⟩ := Checks.bind_eq_ok.mp h
    obtain rfl := Option.some.inj (Except.ok.inj h)
    refine ⟨length_hitLineNumbers hlines, List.length_take_le _ _, List.length_take_le _ _, ?_⟩
    dsimp only
    split
    next => exact length_codeExcerpt (lineRange_ranged hrange)
    next => exact Int.natCast_nonneg 14

theorem foundHits_fit {files : List ScannedFile} {terms : List String}
    {found : List LocalCodeHit}
    (h : foundHits python includeSnippets files terms = .ok found) :
    ∀ hit ∈ found, Fits hit := by
  obtain ⟨matched, hmatched, hfound⟩ := Checks.bind_eq_ok.mp h
  obtain rfl := Except.ok.inj hfound
  intro hit hhit
  obtain ⟨result, hresult, hid⟩ := List.mem_filterMap.mp hhit
  obtain ⟨file, -, hfile⟩ := Checks.mem_of_mapM_eq_ok hmatched result hresult
  exact matchScannedFile_fits (hfile.trans (congrArg Except.ok hid))

end Direct

section Passes

variable {python : Runtime} {includeSnippets : Bool} {files : List ScannedFile}
  {found : List LocalCodeHit} {hits : Hits} {path : String} {hit : LocalCodeHit}

def relationsOf (hit : Option LocalCodeHit) : List ImplementRelation :=
  (hit.map (·.implementRelations)).getD []

-- Each hit stands under its file.
def Placed (hits : Hits) : Prop :=
  ∀ path hit, hits.lookup path = some hit → hit.filePath = path ∧ Fits hit

theorem addEdges_eq {edges : List CallEdge} :
    edges.foldl (addEdge files) hits =
      assignAll (·.filePath) (fun old edge => withEdge (old.getD (edgeHit files edge)) edge)
        hits edges := rfl

theorem addRelations_eq {relations : List ImplementRelation} :
    relations.foldl (addRelation files) hits =
      assignAll (·.filePath)
        (fun old relation => withRelation (old.getD (relationHit files relation)) relation)
        hits relations := rfl

theorem directHits_eq : directHits found = assignAll (·.filePath) (fun _ hit => hit) [] found := rfl

theorem length_sourceSymbols : (sourceSymbols files path).length ≤ maxSymbolsPerHit := by
  unfold sourceSymbols
  cases sourceOf files path with
  | none => exact Nat.zero_le _
  | some source => exact (List.length_take_le 4 _).trans (by decide)

-- A full hit stays as it is.
theorem withEdge_cases (hit : LocalCodeHit) (edge : CallEdge) :
    withEdge hit edge = hit ∨ hit.callEdges.length < maxCallEdgesPerHit ∧
      ∃ modes, withEdge hit edge =
        { hit with
          callEdges := Firsts.add edgeKey hit.callEdges edge
          analysisModes := modes } := by
  unfold withEdge
  split
  next => exact .inl rfl
  next hroom => exact .inr ⟨Nat.not_le.mp hroom, _, rfl⟩

theorem withEdge_fits {edge : CallEdge} (h : Fits hit) : Fits (withEdge hit edge) := by
  obtain hfull | ⟨hroom, modes, hadded⟩ := withEdge_cases hit edge
  · rwa [hfull]
  · rw [hadded]
    refine ⟨h.fewLines, h.fewSymbols, ?_, h.shortExcerpt⟩
    have hlength : (Firsts.add edgeKey hit.callEdges edge).length ≤ hit.callEdges.length + 1 := by
      unfold Firsts.add
      split
      next => exact Nat.le_succ _
      next => exact List.length_append.le
    exact hlength.trans hroom

@[simp] theorem withEdge_filePath {edge : CallEdge} :
    (withEdge hit edge).filePath = hit.filePath := by
  obtain hfull | ⟨-, modes, hadded⟩ := withEdge_cases hit edge
  · rw [hfull]
  · rw [hadded]

@[simp] theorem withEdge_implementRelations {edge : CallEdge} :
    (withEdge hit edge).implementRelations = hit.implementRelations := by
  obtain hfull | ⟨-, modes, hadded⟩ := withEdge_cases hit edge
  · rw [hfull]
  · rw [hadded]

theorem withEdge_prefix {edge : CallEdge} : hit.callEdges <+: (withEdge hit edge).callEdges := by
  obtain hfull | ⟨-, modes, hadded⟩ := withEdge_cases hit edge
  · rw [hfull]
  · rw [hadded]
    exact Firsts.prefix_add

theorem withEdge_unrepeated {edge : CallEdge} (h : Unrepeated hit) :
    Unrepeated (withEdge hit edge) := by
  obtain hfull | ⟨-, modes, hadded⟩ := withEdge_cases hit edge
  · rwa [hfull]
  · rw [hadded]
    exact ⟨Firsts.nodup_map_add h.distinctEdges, h.distinctRelations⟩

theorem withRelation_fits {relation : ImplementRelation} (h : Fits hit) :
    Fits (withRelation hit relation) := ⟨h.fewLines, h.fewSymbols, h.fewEdges, h.shortExcerpt⟩

theorem withRelation_unrepeated {relation : ImplementRelation} (h : Unrepeated hit) :
    Unrepeated (withRelation hit relation) :=
  ⟨h.distinctEdges, Firsts.nodup_map_add h.distinctRelations⟩

theorem edgeHit_fits {edge : CallEdge} : Fits (edgeHit files edge) :=
  ⟨Nat.succ_le_succ (Nat.zero_le 7), length_sourceSymbols, Nat.zero_le _, Int.natCast_nonneg 14⟩

theorem relationHit_fits {relation : ImplementRelation} : Fits (relationHit files relation) :=
  ⟨Nat.succ_le_succ (Nat.zero_le 7), length_sourceSymbols, Nat.zero_le _, Int.natCast_nonneg 14⟩

theorem directHits_placed (h : ∀ hit ∈ found, Fits hit) : Placed (directHits found) := by
  rw [directHits_eq]
  refine assignAll_all (fun _ _ habsurd => nomatch habsurd) ?_ ?_
  · exact fun hit hhit => ⟨rfl, h hit hhit⟩
  · exact fun hit hhit _ _ => ⟨rfl, h hit hhit⟩

theorem edgeHits_placed (h : Placed (directHits found)) :
    Placed (edgeHits python files found) := by
  unfold edgeHits addCallGraphContext
  rw [addEdges_eq]
  refine assignAll_all h ?_ ?_
  · exact fun edge _ => ⟨withEdge_filePath, withEdge_fits edgeHit_fits⟩
  · rintro edge - old ⟨hplace, hfits⟩
    exact ⟨withEdge_filePath.trans hplace, withEdge_fits hfits⟩

theorem allHits_placed (h : Placed (directHits found)) : Placed (allHits python files found) := by
  unfold allHits addImplementationContext
  rw [addRelations_eq]
  refine assignAll_all (edgeHits_placed h) ?_ ?_
  · exact fun relation _ => ⟨rfl, withRelation_fits relationHit_fits⟩
  · rintro relation - old ⟨hplace, hfits⟩
    exact ⟨hplace, withRelation_fits hfits⟩

theorem nodup_keys_allHits : (Reconcile.keys (allHits python files found)).Nodup := by
  unfold allHits edgeHits addImplementationContext addCallGraphContext
  rw [addRelations_eq, addEdges_eq, directHits_eq]
  exact nodup_keys_assignAll (nodup_keys_assignAll (nodup_keys_assignAll List.nodup_nil))

-- The hits do not repeat themselves where what was found in the files did not.
theorem unrepeated_iff :
    (∀ path hit, (allHits python files found).lookup path = some hit → Unrepeated hit) ↔
      ∀ path hit, (directHits found).lookup path = some hit → Unrepeated hit := by
  constructor
  · intro h path hit hhit
    -- What the passes add stands behind what was there.
    obtain ⟨between, hbetween, hedges, hrelations⟩ := @assignAll_keeps _ _ (·.filePath)
      (fun old edge => withEdge (old.getD (edgeHit files edge)) edge)
      (fun last => hit.callEdges <+: last.callEdges ∧
        last.implementRelations = hit.implementRelations) _
      ((files.flatMap (·.callEdges)).filter
        (relatedEdge python (found.flatMap (symbolNames python)))) _ _ hhit
      ⟨List.prefix_refl _, rfl⟩ fun old edge hold =>
        ⟨hold.1.trans withEdge_prefix, withEdge_implementRelations.trans hold.2⟩
    obtain ⟨last, hlast, hlastEdges, hlastRelations⟩ := @assignAll_keeps _ _ (·.filePath)
      (fun old relation => withRelation (old.getD (relationHit files relation)) relation)
      (fun last => last.callEdges = between.callEdges ∧
        between.implementRelations <+: last.implementRelations) _
      (relatedRelations python files (relevantTypes python (edgeHits python files found))) _ _
      hbetween ⟨rfl, List.prefix_refl _⟩ fun old relation hold =>
        ⟨hold.1, hold.2.trans Firsts.prefix_add⟩
    obtain ⟨hdistinctEdges, hdistinctRelations⟩ := h path last hlast
    rw [hlastEdges] at hdistinctEdges
    rw [hrelations] at hlastRelations
    exact ⟨hdistinctEdges.sublist (hedges.sublist.map edgeKey),
      hdistinctRelations.sublist (hlastRelations.sublist.map relationKey)⟩
  · intro h
    have hempty : ∀ hit : LocalCodeHit, hit.callEdges = [] → hit.implementRelations = [] →
        Unrepeated hit := by
      intro hit hedges hrelations
      exact ⟨by rw [hedges]; exact List.nodup_nil, by rw [hrelations]; exact List.nodup_nil⟩
    have hbetween : ∀ path hit, (edgeHits python files found).lookup path = some hit →
        Unrepeated hit := by
      unfold edgeHits addCallGraphContext
      rw [addEdges_eq]
      exact assignAll_all h (fun edge _ => withEdge_unrepeated (hempty _ rfl rfl))
        fun edge _ old hold => withEdge_unrepeated hold
    unfold allHits addImplementationContext
    rw [addRelations_eq]
    exact assignAll_all hbetween (fun relation _ => withRelation_unrepeated (hempty _ rfl rfl))
      fun relation _ old hold => withRelation_unrepeated hold

-- The relations of a file's hit are its own, and what the implementation pass adds to them.
theorem relationsOf_allHits :
    relationsOf ((allHits python files found).lookup path) =
      ((relatedRelations python files (relevantTypes python (edgeHits python files found))).filter
        (·.filePath = path)).foldl (Firsts.add relationKey)
          (relationsOf ((directHits found).lookup path)) := by
  have hrelations : ∀ (relations : List ImplementRelation) (old : Option LocalCodeHit),
      relationsOf (relations.foldl (fun old relation =>
        some (withRelation (old.getD (relationHit files relation)) relation)) old) =
          relations.foldl (Firsts.add relationKey) (relationsOf old) := by
    intro relations
    induction relations with
    | nil => exact fun _ => rfl
    | cons relation rest ih =>
      intro old
      rw [List.foldl_cons, List.foldl_cons, ih]
      cases old with
      | none => rfl
      | some hit => rfl
  have hedges : ∀ (edges : List CallEdge) (old : Option LocalCodeHit),
      relationsOf (edges.foldl (fun old edge =>
        some (withEdge (old.getD (edgeHit files edge)) edge)) old) = relationsOf old := by
    intro edges
    induction edges with
    | nil => exact fun _ => rfl
    | cons edge rest ih =>
      intro old
      rw [List.foldl_cons, ih]
      cases old with
      | none => exact withEdge_implementRelations
      | some hit => exact withEdge_implementRelations
  have hall : (allHits python files found).lookup path =
      ((relatedRelations python files (relevantTypes python (edgeHits python files found))).filter
        (·.filePath = path)).foldl (fun old relation =>
          some (withRelation (old.getD (relationHit files relation)) relation))
        ((edgeHits python files found).lookup path) := by
    unfold allHits addImplementationContext
    rw [addRelations_eq, lookup_assignAll]
  have hbetween : (edgeHits python files found).lookup path =
      (((files.flatMap (·.callEdges)).filter
        (relatedEdge python (found.flatMap (symbolNames python)))).filter
          (·.filePath = path)).foldl (fun old edge =>
            some (withEdge (old.getD (edgeHit files edge)) edge))
        ((directHits found).lookup path) := by
    unfold edgeHits addCallGraphContext
    rw [addEdges_eq, lookup_assignAll]
  rw [hall, hrelations, hbetween, hedges]

end Passes

-- Neither the edges nor the relations of a file repeat themselves, and no file has too many
-- relations with those that the implementation pass adds to the ones of its hit.
structure Sparse (python : Runtime) (files : List ScannedFile) (found : List LocalCodeHit) :
    Prop where
  unrepeated : ∀ path hit, (directHits found).lookup path = some hit → Unrepeated hit
  few : ∀ path, (Firsts.firsts relationKey (relationsOf ((directHits found).lookup path) ++
    (relatedRelations python files (relevantTypes python (edgeHits python files found))).filter
      (·.filePath = path))).length ≤ maxSymbolsPerHit

section Bounds

variable {python : Runtime} {includeSnippets : Bool} {files : List ScannedFile}
  {terms : List String} {found : List LocalCodeHit} {maxHits : Int} {hits : List LocalCodeHit}

theorem mem_hits_iff {hit : LocalCodeHit} :
    hit ∈ (allHits python files found).map Prod.snd ↔
      ∃ path, (allHits python files found).lookup path = some hit := by
  rw [List.mem_map]
  constructor
  · rintro ⟨⟨path, other⟩, hmem, rfl⟩
    exact ⟨path, (Reconcile.lookup_eq_some_iff nodup_keys_allHits other).mpr hmem⟩
  · rintro ⟨path, hlookup⟩
    exact ⟨(path, hit), (Reconcile.lookup_eq_some_iff nodup_keys_allHits hit).mp hlookup, rfl⟩

theorem buildHits_ok (hfound : foundHits python includeSnippets files terms = .ok found) :
    buildHits python includeSnippets files terms maxHits =
      .ok ((sortedDown (hitRank python) ((allHits python files found).map Prod.snd)).take
        (max 1 maxHits).toNat) := by
  unfold buildHits
  rw [hfound]
  rfl

theorem sortedDown_perm : (sortedDown (hitRank python) hits).Perm hits :=
  List.perm_insertionSort _ hits

theorem relationsOf_eq_firsts
    (h : ∀ path hit, (directHits found).lookup path = some hit → Unrepeated hit) (path : String) :
    relationsOf ((allHits python files found).lookup path) =
      Firsts.firsts relationKey (relationsOf ((directHits found).lookup path) ++
        (relatedRelations python files
          (relevantTypes python (edgeHits python files found))).filter (·.filePath = path)) := by
  have hdistinct : ((relationsOf ((directHits found).lookup path)).map relationKey).Nodup := by
    cases hdirect : (directHits found).lookup path with
    | none => exact List.nodup_nil
    | some hit => exact (h path hit hdirect).distinctRelations
  rw [relationsOf_allHits, Firsts.firsts_append, Firsts.firsts_of_nodup hdistinct]

theorem sparse_iff (hplaced : Placed (directHits found)) :
    Sparse python files found ↔
      ∀ hit ∈ (allHits python files found).map Prod.snd, HitBounded hit := by
  constructor
  · intro h hit hhit
    obtain ⟨path, hlookup⟩ := mem_hits_iff.mp hhit
    refine ⟨(allHits_placed hplaced path hit hlookup).2,
      unrepeated_iff.mpr h.unrepeated path hit hlookup, ?_⟩
    have hfew := h.few path
    rwa [← relationsOf_eq_firsts h.unrepeated, hlookup] at hfew
  · intro h
    have hunrepeated := unrepeated_iff.mp fun path hit hlookup =>
      (h hit (mem_hits_iff.mpr ⟨path, hlookup⟩)).toUnrepeated
    refine ⟨hunrepeated, fun path => ?_⟩
    rw [← relationsOf_eq_firsts hunrepeated]
    cases hlookup : (allHits python files found).lookup path with
    | none => exact Nat.zero_le _
    | some hit => exact (h hit (mem_hits_iff.mpr ⟨path, hlookup⟩)).fewRelations

-- The hits stand under their files, and so no file has two.
theorem nodup_files (hplaced : Placed (directHits found)) :
    (((allHits python files found).map Prod.snd).map (·.filePath)).Nodup := by
  have hnodup := @nodup_keys_allHits python files found
  have hkeys : ((allHits python files found).map Prod.snd).map (·.filePath) =
      Reconcile.keys (allHits python files found) := by
    rw [Reconcile.keys, List.map_map]
    refine List.map_congr_left fun entry hentry => ?_
    exact (allHits_placed hplaced entry.1 entry.2
      ((Reconcile.lookup_eq_some_iff hnodup entry.2).mpr hentry)).1
  rwa [hkeys]

end Bounds

theorem buildHits_bounded_iff (python : Runtime) (includeSnippets : Bool)
    (files : List ScannedFile) (terms : List String) :
    (∀ maxHits hits, buildHits python includeSnippets files terms maxHits = .ok hits →
        Bounded maxHits hits) ↔
      ∀ found, foundHits python includeSnippets files terms = .ok found →
        Sparse python files found := by
  constructor
  · intro h found hfound
    have hplaced := directHits_placed (foundHits_fit hfound)
    refine (sparse_iff hplaced).mpr fun hit hhit => ?_
    have hbounded := h _ _ (@buildHits_ok _ _ _ _ _
      ((allHits python files found).map Prod.snd).length hfound)
    refine hbounded.each hit ?_
    rw [List.take_of_length_le]
    · exact sortedDown_perm.mem_iff.mpr hhit
    · rw [sortedDown_perm.length_eq]
      omega
  · intro h maxHits hits hhits
    obtain ⟨found, hfound, -⟩ := Checks.bind_eq_ok.mp hhits
    obtain rfl := Except.ok.inj ((buildHits_ok hfound).symm.trans hhits)
    have hplaced := directHits_placed (foundHits_fit hfound)
    have hlength := List.length_take_le (max 1 maxHits).toNat
      (sortedDown (hitRank python) ((allHits python files found).map Prod.snd))
    refine ⟨by omega, ?_, fun hit hhit => ?_⟩
    · refine List.Nodup.sublist ((List.take_sublist _ _).map _) ?_
      exact (sortedDown_perm.map _).nodup_iff.mpr (nodup_files hplaced)
    · exact (sparse_iff hplaced).mp (h found hfound) hit
        (sortedDown_perm.mem_iff.mp (List.mem_of_mem_take hhit))

-- The files that an inspection looks for hits in.
structure Searched (python : Runtime) (parse : String → Except String (Option PyNode))
    (inspector : CodeInspector) (tree : FileTree) (serviceName queryText repoHint : String)
    (files : List ScannedFile) : Prop where
  enabled : inspector.enabled = true
  terms : queryTerms python queryText ≠ []
  scanned : ∃ repo, resolveRepo inspector serviceName repoHint = some repo ∧
    isDir tree.root (repoRoot inspector tree.root repo) = true ∧
    ∃ scan, scanFiles python parse tree (repoRoot inspector tree.root repo) repo = .ok scan ∧
      files = resolveCrossModuleSymbols python scan.files

section Inspections

variable {python : Runtime} {parse : String → Except String (Option PyNode)}
  {inspector : CodeInspector} {tree : FileTree} {serviceName queryText repoHint : String}
  {maxHits : Int} {hits : List LocalCodeHit}

theorem inspectFiles_hits {includeSnippets : Bool} {repo : LocalRepoConfig} {terms : List String}
    {scan : Scan} :
    (∃ inspection, inspectFiles python includeSnippets serviceName repo terms maxHits scan =
        .ok inspection ∧ inspection.hits = hits) ↔
      buildHits python includeSnippets (resolveCrossModuleSymbols python scan.files) terms
        maxHits = .ok hits := by
  unfold inspectFiles
  dsimp only
  cases buildHits python includeSnippets (resolveCrossModuleSymbols python scan.files) terms
      maxHits with
  | error raised =>
    constructor
    · rintro ⟨_, h, -⟩
      cases h
    · intro h
      cases h
  | ok built =>
    constructor
    · rintro ⟨inspection, hinspection, rfl⟩
      obtain rfl := Except.ok.inj hinspection
      rfl
    · intro h
      exact ⟨_, rfl, Except.ok.inj h⟩

-- An inspection has no hits, or those of the files that it looks at.
theorem searched_of_inspect {inspection : CodeInspection}
    (h : inspect python parse inspector tree serviceName queryText repoHint maxHits =
      .ok inspection) :
    inspection.hits = [] ∨
      ∃ files, Searched python parse inspector tree serviceName queryText repoHint files ∧
        buildHits python inspector.includeSnippets files (queryTerms python queryText) maxHits =
          .ok inspection.hits := by
  unfold inspect at h
  dsimp only at h
  split at h
  next =>
    obtain rfl := Except.ok.inj h
    exact .inl rfl
  next henabled =>
    cases hrepo : resolveRepo inspector serviceName repoHint with
    | none =>
      rw [hrepo] at h
      obtain rfl := Except.ok.inj h
      exact .inl rfl
    | some repo =>
      rw [hrepo] at h
      dsimp only at h
      split at h
      next =>
        obtain rfl := Except.ok.inj h
        exact .inl rfl
      next hdir =>
        split at h
        next =>
          obtain rfl := Except.ok.inj h
          exact .inl rfl
        next hterms =>
          obtain ⟨scan, hscan, hfiles⟩ := Checks.bind_eq_ok.mp h
          refine .inr ⟨_, ⟨Bool.eq_true_of_not_eq_false henabled, hterms, repo, hrepo,
            Bool.eq_true_of_not_eq_false hdir, scan, hscan, rfl⟩, ?_⟩
          exact inspectFiles_hits.mp ⟨inspection, hfiles, rfl⟩

theorem inspect_of_searched {files : List ScannedFile}
    (h : Searched python parse inspector tree serviceName queryText repoHint files)
    (hhits : buildHits python inspector.includeSnippets files (queryTerms python queryText)
      maxHits = .ok hits) :
    ∃ inspection, inspect python parse inspector tree serviceName queryText repoHint maxHits =
      .ok inspection ∧ inspection.hits = hits := by
  obtain ⟨henabled, hterms, repo, hrepo, hdir, scan, hscan, rfl⟩ := h
  obtain ⟨inspection, hinspection, hsame⟩ := (@inspectFiles_hits python serviceName maxHits hits
    inspector.includeSnippets repo (queryTerms python queryText) scan).mpr hhits
  refine ⟨inspection, ?_, hsame⟩
  unfold inspect
  dsimp only
  rw [if_neg (by rw [henabled]; decide), hrepo]
  dsimp only
  rw [if_neg (by rw [hdir]; decide), if_neg hterms, hscan]
  exact hinspection

end Inspections

-- The hits of an inspection are as bounded as promised where the files that it looks at are
-- sparse.
theorem inspect_bounded_iff (python : Runtime) (parse : String → Except String (Option PyNode))
    (inspector : CodeInspector) (tree : FileTree) (serviceName queryText repoHint : String) :
    (∀ maxHits inspection,
        inspect python parse inspector tree serviceName queryText repoHint maxHits =
          .ok inspection → Bounded maxHits inspection.hits) ↔
      ∀ files found,
        Searched python parse inspector tree serviceName queryText repoHint files →
          foundHits python inspector.includeSnippets files (queryTerms python queryText) =
            .ok found → Sparse python files found := by
  constructor
  · intro h files found hsearched
    refine (buildHits_bounded_iff python inspector.includeSnippets files _).mp ?_ found
    intro maxHits hits hhits
    obtain ⟨inspection, hinspection, rfl⟩ := inspect_of_searched hsearched hhits
    exact h maxHits inspection hinspection
  · intro h maxHits inspection hinspection
    rcases searched_of_inspect hinspection with hnone | ⟨files, hsearched, hhits⟩
    · rw [hnone]
      exact ⟨by rw [List.length_nil]; omega, List.nodup_nil,
        fun _ habsurd => absurd habsurd List.not_mem_nil⟩
    · exact (buildHits_bounded_iff python inspector.includeSnippets files _).mpr
        (fun found => h files found hsearched) maxHits inspection.hits hhits

namespace Sample

-- One line of Go that loads from two places.
def twoLoads : FileTree where
  root := .directory [("repo", .directory [("cache.go", .file true)])]
  bytes _ := "func run() \x7b cache.load(); store.load() \x7d".toUTF8.toList

end Sample

-- Two edges that differ in their receivers alone are both kept.
theorem inspect_not_bounded :
    ¬∀ (python : Runtime) (parse : String → Except String (Option PyNode))
      (inspector : CodeInspector) (tree : FileTree) (serviceName queryText repoHint : String)
      (maxHits : Int) (inspection : CodeInspection),
        inspect python parse inspector tree serviceName queryText repoHint maxHits =
          .ok inspection → Bounded maxHits inspection.hits := by
  intro h
  have hrepeated : (match inspect .ascii Sample.noPython Sample.inspector Sample.twoLoads "svc"
        "run it" "" 8 with
      | .ok inspection => inspection.hits.all fun hit => decide (hit.callEdges.map edgeKey).Nodup
      | .error _ => true) = false := by decide +kernel
  cases hinspection : inspect .ascii Sample.noPython Sample.inspector Sample.twoLoads "svc"
      "run it" "" 8 with
  | error raised =>
    rw [hinspection] at hrepeated
    exact nomatch hrepeated
  | ok inspection =>
    rw [hinspection] at hrepeated
    have hbounded := h _ _ _ _ _ _ _ _ inspection hinspection
    refine Bool.noConfusion (hrepeated.symm.trans (List.all_eq_true.mpr fun hit hhit => ?_))
    exact decide_eq_true (hbounded.each hit hhit).distinctEdges

end Troubleshooter.Decision
