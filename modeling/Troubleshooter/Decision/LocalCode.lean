import Troubleshooter.Library.Checks
import Troubleshooter.Python.Dict
import Troubleshooter.Python.Glob

-- Which files of a local repository the code inspector must not read.
namespace Troubleshooter.Decision

open Troubleshooter.Library Troubleshooter.Python

def defaultAllowedGlobs : List String :=
  ["src/main/java/**", "src/main/resources/**", "**/*.go", "**/*.py", "**/*.js", "**/*.ts",
    "**/*.yaml", "**/*.yml", "**/*.properties", "**/*.md"]

def defaultDenyGlobs : List String :=
  [".git/**", ".env", ".env.*", "**/.env", "**/.env.*", "*secret*", "**/*secret*", "*token*",
    "**/*token*", "*credential*", "**/*credential*", "application-prod.yml",
    "application-prod.yaml", "**/application-prod.yml", "**/application-prod.yaml",
    "application-production.yml", "application-production.yaml",
    "**/application-production.yml", "**/application-production.yaml", "**/*.pem", "**/*.key",
    "**/*.p12", "**/*.jks"]

structure LocalRepoConfig where
  serviceName : String
  repoPath : String
  allowedGlobs : List String := defaultAllowedGlobs
  denyGlobs : List String := defaultDenyGlobs
  analysisBackend : String := "auto"
  lsifPath : Option String := none
  lspCommand : List String := []

-- tuple(str(item) for item in value)
def texts (python : Runtime) (value : Value) : Except String (List String) :=
  (iterate value).map fun items => items.map (str python)

def optionalPath (expanduser : String → Except String String) (raw : String) :
    Except String (Option String) :=
  if raw = "" then .ok none else (expanduser raw).map some

-- The denied files that a repository names itself come before the usual ones.
def LocalRepoConfig.fromDict (python : Runtime) (expanduser : String → Except String String)
    (serviceName : String) (value : List (String × Value)) : Except String LocalRepoConfig := do
  let field := fun key => get value key .null
  let globs := fun (default : List String) => Value.list (default.map .str)
  let allowed ← texts python (orElse (field "allowed_globs") (globs defaultAllowedGlobs))
  let deny ← texts python (orElse (field "deny_globs") (globs defaultDenyGlobs))
  let lspCommand ← texts python (orElse (field "lsp_command") (.list []))
  let lsifRaw := strip (str python (get value "lsif_path" (.str "")))
  let repoPath ← expanduser (str python (get value "repo_path" (.str "")))
  let lsifPath ← optionalPath expanduser lsifRaw
  pure
    { serviceName
      repoPath
      allowedGlobs := allowed
      denyGlobs := deny ++ defaultDenyGlobs.filter (· ∉ deny)
      analysisBackend := str python (orElse (field "analysis_backend") (.str "auto"))
      lsifPath
      lspCommand }

def isDenied (python : Runtime) (relativePath : String) (denyGlobs : List String) : Bool :=
  let lowered := python.lower relativePath
  denyGlobs.any fun pattern => fnmatch lowered (python.lower pattern)

def fileName (path : String) : String := String.ofList (path.toList.rtakeWhile (· ≠ '/'))

def keyExtensions : List String := [".pem", ".key", ".p12", ".jks"]

def secretNames : List String :=
  [".env", "application-prod.yml", "application-prod.yaml", "application-production.yml",
    "application-production.yaml"]

def secretWords : List String := ["secret", "token", "credential"]

def KeyFile (name : String) : Prop :=
  ∃ extension ∈ keyExtensions, extension.toList <:+ name.toList

-- The other files that hold secrets by their name.
def SecretFile (name : String) : Prop :=
  name ∈ secretNames ∨ ".env.".toList <+: name.toList ∨
    ∃ word ∈ secretWords, Text.Contains name word

instance (name : String) : Decidable (KeyFile name) := inferInstanceAs (Decidable (∃ _ ∈ _, _))

instance (name : String) : Decidable (SecretFile name) := inferInstanceAs (Decidable (_ ∨ _))

-- The patterns for the names of such files.
def keyGlobs : List String := keyExtensions.map ("*" ++ ·)

def nameGlobs : List String :=
  secretNames ++ ((".env." ++ "*") :: secretWords.map ("*" ++ · ++ "*"))

theorem keyFile_iff (name : String) :
    KeyFile name ↔ ∃ glob ∈ keyGlobs, fnmatch name glob = true := by
  have hplain : ∀ extension ∈ keyExtensions, Plain extension := by decide
  constructor
  · rintro ⟨extension, hextension, hend⟩
    exact ⟨_, List.mem_map_of_mem hextension, (fnmatch_ends (hplain _ hextension)).mpr hend⟩
  · rintro ⟨glob, hglob, hmatch⟩
    obtain ⟨extension, hextension, rfl⟩ := List.mem_map.mp hglob
    exact ⟨extension, hextension, (fnmatch_ends (hplain _ hextension)).mp hmatch⟩

theorem secretFile_iff (name : String) :
    SecretFile name ↔ ∃ glob ∈ nameGlobs, fnmatch name glob = true := by
  have hnames : ∀ text ∈ secretNames, Plain text := by decide
  have henv : Plain ".env." := by decide
  have hwords : ∀ word ∈ secretWords, Plain word := by decide
  constructor
  · rintro (hname | hstart | ⟨word, hword, hcontains⟩)
    · exact ⟨name, List.mem_append_left _ hname, (fnmatch_plain (hnames name hname)).mpr rfl⟩
    · exact ⟨_, List.mem_append_right _ List.mem_cons_self, (fnmatch_starts henv).mpr hstart⟩
    · exact ⟨_, List.mem_append_right _ (List.mem_cons_of_mem _ (List.mem_map_of_mem hword)),
        (fnmatch_inside (hwords word hword)).mpr hcontains⟩
  · rintro ⟨glob, hglob, hmatch⟩
    rcases List.mem_append.mp hglob with hname | hrest
    · exact .inl ((fnmatch_plain (hnames glob hname)).mp hmatch ▸ hname)
    rcases List.mem_cons.mp hrest with rfl | hwordGlob
    · exact .inr (.inl ((fnmatch_starts henv).mp hmatch))
    · obtain ⟨word, hword, rfl⟩ := List.mem_map.mp hwordGlob
      exact .inr (.inr ⟨word, hword, (fnmatch_inside (hwords word hword)).mp hmatch⟩)

theorem usual_cases {glob : String} (h : glob ∈ defaultDenyGlobs) :
    glob = ".git/**" ∨ glob ∈ nameGlobs ∨ ∃ name ∈ nameGlobs ++ keyGlobs, glob = "**/" ++ name := by
  revert glob
  decide +kernel

theorem mem_usual_of_name {glob : String} (h : glob ∈ nameGlobs) : glob ∈ defaultDenyGlobs := by
  revert glob
  decide +kernel

theorem mem_usual_below {glob : String} (h : glob ∈ nameGlobs ++ keyGlobs) :
    "**/" ++ glob ∈ defaultDenyGlobs := by
  revert glob
  decide +kernel

section Paths

variable {path glob : String}

theorem fileName_of_root (h : '/' ∉ path.toList) : fileName path = path := by
  unfold fileName
  rw [List.rtakeWhile_eq_self_iff.mpr fun letter hletter => ?_, String.ofList_toList]
  exact decide_eq_true fun hslash => h (hslash ▸ hletter)

theorem below_of_slash (h : '/' ∈ path.toList) :
    ∃ above, path.toList = above ++ '/' :: (fileName path).toList := by
  obtain ⟨name, above, hsplit, hname⟩ :=
    List.eq_append_cons_of_mem (List.mem_reverse.mpr h)
  have hkept : ∀ letter ∈ name, decide (letter ≠ '/') = true :=
    fun letter hletter => decide_eq_true fun hslash => hname (hslash ▸ hletter)
  have htaken : path.toList.rtakeWhile (· ≠ '/') = name.reverse := by
    rw [List.rtakeWhile, hsplit, List.takeWhile_append_of_pos hkept,
      List.takeWhile_cons_of_neg (by decide), List.append_nil]
  refine ⟨above.reverse, ?_⟩
  rw [fileName, String.toList_ofList, htaken, ← List.reverse_reverse path.toList, hsplit]
  simp

-- What is denied by its name at the root is denied so below it.
theorem fnmatch_below_of_name (hslash : '/' ∈ path.toList)
    (h : fnmatch (fileName path) glob = true) : fnmatch path ("**/" ++ glob) = true := by
  obtain ⟨above, habove⟩ := below_of_slash hslash
  exact fnmatch_below.mpr ⟨above, _, habove, h⟩

theorem slash_of_fnmatch_below (h : fnmatch path ("**/" ++ glob) = true) : '/' ∈ path.toList := by
  obtain ⟨above, below, hpath, -⟩ := fnmatch_below.mp h
  rw [hpath]
  exact List.mem_append_right _ List.mem_cons_self

theorem slash_of_fnmatch_git (h : fnmatch path ".git/**" = true) : '/' ∈ path.toList := by
  have htranslate : translate 0 ".git/**".toList = Glob.word ".git/".toList ++ [.star, .star] := rfl
  rw [fnmatch, htranslate] at h
  obtain ⟨rest, hpath, -⟩ := Glob.fits_word_append.mp h
  rw [hpath]
  exact List.mem_append_left _ (by decide)

-- At the root the patterns for what is below it do not count.
theorem usual_root_iff (h : '/' ∉ path.toList) :
    (∃ glob ∈ defaultDenyGlobs, fnmatch path glob = true) ↔ SecretFile path := by
  rw [secretFile_iff]
  constructor
  · rintro ⟨glob, hglob, hmatch⟩
    rcases usual_cases hglob with rfl | hname | ⟨name, -, rfl⟩
    · exact absurd (slash_of_fnmatch_git hmatch) h
    · exact ⟨glob, hname, hmatch⟩
    · exact absurd (slash_of_fnmatch_below hmatch) h
  · rintro ⟨glob, hglob, hmatch⟩
    exact ⟨glob, mem_usual_of_name hglob, hmatch⟩

theorem usual_of_below (hslash : '/' ∈ path.toList)
    (h : KeyFile (fileName path) ∨ SecretFile (fileName path)) :
    ∃ glob ∈ defaultDenyGlobs, fnmatch path glob = true := by
  rw [keyFile_iff, secretFile_iff] at h
  rcases h with ⟨glob, hglob, hmatch⟩ | ⟨glob, hglob, hmatch⟩
  · exact ⟨_, mem_usual_below (List.mem_append_right _ hglob), fnmatch_below_of_name hslash hmatch⟩
  · exact ⟨_, mem_usual_below (List.mem_append_left _ hglob), fnmatch_below_of_name hslash hmatch⟩

end Paths

section Denied

variable {python : Runtime} {config : LocalRepoConfig}

-- A file with a sensitive name, in any letter case.
def Sensitive (python : Runtime) (path : String) : Prop :=
  KeyFile (fileName (python.lower path)) ∨ SecretFile (fileName (python.lower path))

-- It is no key file right at the root, unless it has something else in its name or the repository
-- has a pattern for it.
def Covered (python : Runtime) (config : LocalRepoConfig) (path : String) : Prop :=
  '/' ∈ (python.lower path).toList ∨ ¬KeyFile (fileName (python.lower path)) ∨
    SecretFile (fileName (python.lower path)) ∨
    ∃ glob ∈ config.denyGlobs, glob ∉ defaultDenyGlobs ∧
      fnmatch (python.lower path) (python.lower glob) = true

theorem denied_iff (hlower : ∀ glob ∈ defaultDenyGlobs, python.lower glob = glob)
    (husual : ∀ glob ∈ defaultDenyGlobs, glob ∈ config.denyGlobs) (path : String) :
    (Sensitive python path → isDenied python path config.denyGlobs = true) ↔
      Covered python config path := by
  unfold Sensitive Covered isDenied
  generalize python.lower path = lowered
  have hdenied : (∃ glob ∈ defaultDenyGlobs, fnmatch lowered glob = true) →
      (config.denyGlobs.any fun pattern => fnmatch lowered (python.lower pattern)) = true := by
    rintro ⟨glob, hglob, hmatch⟩
    refine List.any_eq_true.mpr ⟨glob, husual glob hglob, ?_⟩
    rw [hlower glob hglob]
    exact hmatch
  constructor
  · intro h
    by_cases hslash : '/' ∈ lowered.toList
    · exact .inl hslash
    by_cases hkey : KeyFile (fileName lowered)
    · obtain ⟨glob, hglob, hmatch⟩ := List.any_eq_true.mp (h (.inl hkey))
      by_cases hdefault : glob ∈ defaultDenyGlobs
      · rw [hlower glob hdefault] at hmatch
        rw [fileName_of_root hslash]
        exact .inr (.inr (.inl ((usual_root_iff hslash).mp ⟨glob, hdefault, hmatch⟩)))
      · exact .inr (.inr (.inr ⟨glob, hglob, hdefault, hmatch⟩))
    · exact .inr (.inl hkey)
  · intro h hsensitive
    by_cases hslash : '/' ∈ lowered.toList
    · exact hdenied (usual_of_below hslash hsensitive)
    rcases h with hbelow | hother | hsecret | ⟨glob, hglob, -, hmatch⟩
    · exact absurd hbelow hslash
    · have hsecret := hsensitive.resolve_left hother
      rw [fileName_of_root hslash] at hsecret
      exact hdenied ((usual_root_iff hslash).mpr hsecret)
    · rw [fileName_of_root hslash] at hsecret
      exact hdenied ((usual_root_iff hslash).mpr hsecret)
    · exact List.any_eq_true.mpr ⟨glob, hglob, hmatch⟩

-- Whatever a repository names, the usual ones stay denied.
theorem usual_of_fromDict {expanduser : String → Except String String} {serviceName : String}
    {value : List (String × Value)}
    (h : LocalRepoConfig.fromDict python expanduser serviceName value = .ok config) :
    ∀ glob ∈ defaultDenyGlobs, glob ∈ config.denyGlobs := by
  intro glob hglob
  obtain ⟨allowed, -, h⟩ := Checks.bind_eq_ok.mp h
  obtain ⟨deny, -, h⟩ := Checks.bind_eq_ok.mp h
  obtain ⟨lspCommand, -, h⟩ := Checks.bind_eq_ok.mp h
  obtain ⟨repoPath, -, h⟩ := Checks.bind_eq_ok.mp h
  obtain ⟨lsifPath, -, h⟩ := Checks.bind_eq_ok.mp h
  rw [← Except.ok.inj h]
  by_cases hdeny : glob ∈ deny
  · exact List.mem_append_left _ hdeny
  · exact List.mem_append_right _ (List.mem_filter.mpr ⟨hglob, decide_eq_true hdeny⟩)

end Denied

namespace Sample

def repo : LocalRepoConfig := { serviceName := "svc", repoPath := "/repo" }

theorem lower_usual : ∀ glob ∈ defaultDenyGlobs, Runtime.ascii.lower glob = glob := by
  decide +kernel

end Sample

theorem denied_iff_server_key :
    (Sensitive .ascii "conf/Server.KEY" →
        isDenied .ascii "conf/Server.KEY" Sample.repo.denyGlobs = true) ↔
      Covered .ascii Sample.repo "conf/Server.KEY" :=
  denied_iff Sample.lower_usual (fun _ h => h) "conf/Server.KEY"

-- A key that lies right at the root.
theorem not_denied_server_pem :
    ¬∀ (python : Runtime) (config : LocalRepoConfig) (path : String),
      (∀ glob ∈ defaultDenyGlobs, python.lower glob = glob) →
        (∀ glob ∈ defaultDenyGlobs, glob ∈ config.denyGlobs) →
          Sensitive python path → isDenied python path config.denyGlobs = true := by
  intro h
  have hdenied := h .ascii Sample.repo "server.pem" Sample.lower_usual (fun _ h => h)
    (.inl (by decide +kernel))
  exact absurd hdenied (by decide +kernel)

end Troubleshooter.Decision
