import Troubleshooter.Storage.Guards

-- When the two guards say the same of a database.
namespace Troubleshooter.Storage

open Troubleshooter.Library

variable {go : Go.Runtime} {python : Python.Runtime} {isDigit : Char → Bool}
  {int : String → Except String Int} {env : LocalEnvironment} {dsn : String}
  {user password part database rest : List Char}

-- The words that the guards compare with, in the letters of which no table of letter case
-- differs.
def guardWords : List String := localHosts ++ ["1", "true", "yes", "y", "on", "enabled"]

structure SameCase (go : Go.Runtime) (python : Python.Runtime) : Prop where
  lower_eq_iff : ∀ text, ∀ word ∈ guardWords, python.lower text = word ↔ go.toLower text = word

-- No letter is a blank to one of them only.
def SameBlanks (text : String) : Prop :=
  ∀ letter ∈ text.toList, Python.isSpace letter = Go.isSpace letter

instance (text : String) : Decidable (SameBlanks text) :=
  inferInstanceAs (Decidable (∀ letter ∈ text.toList, _))

theorem SameBlanks.strip_eq {text : String} (h : SameBlanks text) :
    Python.strip text = Go.trimSpace text := Text.strip_congr h

theorem SameBlanks.mono {text other : String} (h : SameBlanks text)
    (hletters : other.toList ⊆ text.toList) : SameBlanks other :=
  fun letter hletter => h letter (hletters hletter)

theorem bracketed_subset {value : String} : (bracketed value).toList ⊆ value.toList := by
  rw [bracketed, String.toList_ofList]
  exact fun _ hletter => List.mem_of_mem_drop ((List.takeWhile_prefix _).mem hletter)

theorem beforeColon_subset {value : String} : (beforeColon value).toList ⊆ value.toList := by
  rw [beforeColon, String.toList_ofList]
  exact fun _ hletter => (List.rdropWhile_prefix _ _).mem (List.dropLast_subset _ hletter)

theorem hostOf_subset {part : String} : (hostOf part).toList ⊆ part.toList := by
  intro letter hletter
  refine @Text.mem_of_mem_strip Go.isSpace _ _ ?_
  unfold hostOf at hletter
  have hinner := Text.mem_of_mem_strip hletter
  split at hinner
  next =>
    split at hinner
    next => exact bracketed_subset hinner
    next => exact hinner
  next =>
    split at hinner
    next => exact beforeColon_subset hinner
    next => exact hinner

theorem mem_words {text : String} {words : List String} (hcase : SameCase go python)
    (hwords : words ⊆ guardWords) : python.lower text ∈ words ↔ go.toLower text ∈ words := by
  constructor
  · intro hmem
    rwa [(hcase.lower_eq_iff text _ (hwords hmem)).mp rfl]
  · intro hmem
    rwa [(hcase.lower_eq_iff text _ (hwords hmem)).mpr rfl]

theorem isLocalMySQLHost_eq {host : String} (hcase : SameCase go python)
    (hblanks : SameBlanks host) :
    Platform.isLocalMySQLHost python host = isLocalMySQLHost go host := by
  unfold Platform.isLocalMySQLHost isLocalMySQLHost
  rw [hblanks.strip_eq]
  exact decide_eq_decide.mpr (mem_words hcase (List.subset_append_left _ _))

theorem canonicalOf_eq (hblanks : SameBlanks env.mysqlCanonicalLocalDatabase) :
    Platform.canonicalOf env = canonicalOf env := by
  unfold Platform.canonicalOf canonicalOf
  rw [hblanks.strip_eq]

-- The platform knows one word more that lets another database through.
def SaysEnabled (go : Go.Runtime) (env : LocalEnvironment) : Prop :=
  go.toLower (Go.trimSpace env.allowNonCanonicalLocalDB) = "enabled"

theorem envBool_eq_true_iff (hcase : SameCase go python)
    (hblanks : SameBlanks env.allowNonCanonicalLocalDB) :
    Platform.envBool python env.allowNonCanonicalLocalDB false = true ↔
      envTruthy go env.allowNonCanonicalLocalDB = true ∨ SaysEnabled go env := by
  have hword : ∀ raw : String, (if raw = "" then false else
      decide (raw ∈ ["1", "true", "yes", "y", "on", "enabled"])) = true ↔
        raw ∈ ["1", "true", "yes", "y", "on", "enabled"] := by
    intro raw
    split
    next hempty =>
      rw [hempty]
      decide
    next => exact decide_eq_true_iff
  unfold Platform.envBool envTruthy SaysEnabled
  rw [hblanks.strip_eq]
  refine (hword _).trans ((mem_words hcase (List.subset_append_right _ _)).trans ?_)
  rw [decide_eq_true_iff]
  exact List.mem_append (s := ["1", "true", "yes", "y", "on"]).trans
    (or_congr_right List.mem_singleton)

-- What makes each of them refuse a database on a host.
theorem refusal_ne_none_iff {host database : String} :
    refusal go env host database ≠ none ↔
      isLocalMySQLHost go host = true ∧
        ¬(envTruthy go env.allowNonCanonicalLocalDB = true ∨ database = canonicalOf env) := by
  unfold refusal
  split
  next hskipped =>
    refine iff_of_false (fun hne => hne rfl) fun hrefused => ?_
    rcases hskipped with hremote | hallowed
    · exact absurd (hrefused.1.symm.trans hremote) Bool.true_eq_false.mp
    · exact hrefused.2 (.inl hallowed)
  next hguarded =>
    have hlocal : isLocalMySQLHost go host = true :=
      Bool.eq_true_of_not_eq_false fun hremote => hguarded (.inl hremote)
    split
    next hcanonical =>
      exact iff_of_false (fun hne => hne rfl) fun hrefused => hrefused.2 (.inr hcanonical)
    next hother =>
      refine iff_of_true (Option.some_ne_none _) ⟨hlocal, ?_⟩
      rintro (hallowed | hcanonical)
      · exact hguarded (.inr hallowed)
      · exact hother hcanonical

theorem Platform.refusal_ne_none_iff {host database : String} :
    Platform.refusal python env host database ≠ none ↔
      Platform.isLocalMySQLHost python host = true ∧
        ¬(Platform.envBool python env.allowNonCanonicalLocalDB false = true ∨
          database = Platform.canonicalOf env) := by
  unfold Platform.refusal
  split
  next hguarded =>
    split
    next hcanonical =>
      exact iff_of_false (fun hne => hne rfl) fun hrefused => hrefused.2 (.inr hcanonical)
    next hother =>
      refine iff_of_true (Option.some_ne_none _) ⟨hguarded.1, ?_⟩
      rintro (hallowed | hcanonical)
      · exact absurd (hallowed.symm.trans hguarded.2) Bool.true_eq_false.mp
      · exact hother hcanonical
  next hskipped =>
    refine iff_of_false (fun hne => hne rfl) fun hrefused => hskipped ⟨hrefused.1, ?_⟩
    exact Bool.eq_false_of_not_eq_true fun hallowed => hrefused.2 (.inl hallowed)

def GoRefuses (go : Go.Runtime) (env : LocalEnvironment) (dsn : String) : Prop :=
  ∃ message, validateLocalMySQLDSN go env dsn = .error message

def PythonRefuses (python : Python.Runtime) (isDigit : Char → Bool)
    (int : String → Except String Int) (env : LocalEnvironment) (dsn : String) : Prop :=
  ∃ config message, Platform.parseGoMySQLDSN isDigit int dsn = .ok (some config) ∧
    Platform.validateLocalMySQLSchema python env config = .error message

-- Both read one host and one database, and both refuse the name of a database or none does.
structure GuardsAgree (go : Go.Runtime) (python : Python.Runtime) (isDigit : Char → Bool)
    (int : String → Except String Int) (env : LocalEnvironment) (dsn : String) : Prop where
  same : ∀ host database config, parseGoMySQLDSNHostDatabase dsn = some (host, database) →
    Platform.parseGoMySQLDSN isDigit int dsn = .ok (some config) →
      config.host = host ∧ config.database = database
  refused : GoRefuses go env dsn ↔ PythonRefuses python isDigit int env dsn

-- The port that stands in the parentheses, if one does, can be read.
def Readable (isDigit : Char → Bool) (int : String → Except String Int) (part : List Char) :
    Prop :=
  ∃ host port, Platform.parseMySQLHostPort isDigit int (String.ofList part) = .ok (host, port)

theorem parseGo_of_splits {front : List Char} (h : Splits dsn.toList front part database rest)
    (hleftmost : Leftmost dsn.toList front) :
    parseGoMySQLDSNHostDatabase dsn =
      some (hostOf (String.ofList part), Go.trimSpace (String.ofList database)) := by
  obtain ⟨taken, hsearch⟩ := search_of_leftmost h hleftmost
  unfold parseGoMySQLDSNHostDatabase
  rw [hsearch]
  rfl

theorem parseGo_eq_none (h : ∀ front part database rest,
    ¬Splits dsn.toList front part database rest) : parseGoMySQLDSNHostDatabase dsn = none := by
  rcases @search_tcpRE dsn.toList with ⟨front, part, database, rest, hsplits, -⟩ | ⟨-, hsearch⟩
  · exact absurd hsplits (h front part database rest)
  · unfold parseGoMySQLDSNHostDatabase
    rw [hsearch]
    rfl

theorem parsePython_of_login (h : Login dsn.toList user password part database rest) :
    Platform.parseGoMySQLDSN isDigit int dsn =
      (Platform.parseMySQLHostPort isDigit int (String.ofList part)).map fun (host, port) =>
        some
          { host, port
            user := String.ofList user
            password := String.ofList password
            database := String.ofList database } := by
  obtain ⟨taken, hfirst⟩ := @first_of_login none _ _ _ _ _ _ h
  unfold Platform.parseGoMySQLDSN
  rw [hfirst]
  dsimp only
  change (Platform.parseMySQLHostPort isDigit int (String.ofList part) >>= _) = _
  cases Platform.parseMySQLHostPort isDigit int (String.ofList part) <;> rfl

theorem parsePython_eq_none (h : ∀ user password part database rest,
    ¬Login dsn.toList user password part database rest) :
    Platform.parseGoMySQLDSN isDigit int dsn = .ok none := by
  unfold Platform.parseGoMySQLDSN
  cases hfirst : Platform.goDSNRE.first none dsn.toList with
  | none => rfl
  | some found =>
    obtain ⟨user, password, part, database, rest, hlogin⟩ := login_of_first hfirst
    exact absurd hlogin (h user password part database rest)

theorem goRefuses_iff {host named : String}
    (h : parseGoMySQLDSNHostDatabase dsn = some (host, named)) :
    GoRefuses go env dsn ↔ refusal go env host named ≠ none := by
  unfold GoRefuses validateLocalMySQLDSN
  rw [h]
  dsimp only
  cases refusal go env host named with
  | none => exact iff_of_false (fun ⟨_, hok⟩ => nomatch hok) fun hne => hne rfl
  | some message => exact iff_of_true ⟨message, rfl⟩ (Option.some_ne_none _)

theorem not_goRefuses (h : parseGoMySQLDSNHostDatabase dsn = none) : ¬GoRefuses go env dsn := by
  rintro ⟨message, hrefused⟩
  unfold validateLocalMySQLDSN at hrefused
  rw [h] at hrefused
  exact nomatch hrefused

theorem pythonRefuses_iff {config : Platform.MySQLConfig}
    (h : Platform.parseGoMySQLDSN isDigit int dsn = .ok (some config)) :
    PythonRefuses python isDigit int env dsn ↔
      Platform.refusal python env config.host config.database ≠ none := by
  have hvalid : (∃ message, Platform.validateLocalMySQLSchema python env config = .error message) ↔
      Platform.refusal python env config.host config.database ≠ none := by
    unfold Platform.validateLocalMySQLSchema
    cases Platform.refusal python env config.host config.database with
    | none => exact iff_of_false (fun ⟨_, hok⟩ => nomatch hok) fun hne => hne rfl
    | some message => exact iff_of_true ⟨message, rfl⟩ (Option.some_ne_none _)
  refine Iff.trans ⟨?_, fun ⟨message, hrefused⟩ => ⟨config, message, h, hrefused⟩⟩ hvalid
  rintro ⟨other, message, hother, hrefused⟩
  obtain rfl := Option.some.inj (Except.ok.inj (hother.symm.trans h))
  exact ⟨message, hrefused⟩

theorem not_pythonRefuses
    (h : ∀ config, Platform.parseGoMySQLDSN isDigit int dsn ≠ .ok (some config)) :
    ¬PythonRefuses python isDigit int env dsn :=
  fun ⟨config, _, hread, _⟩ => h config hread

theorem Login.unique {user' password' part' database' rest' text : List Char}
    (h : Login text user password part database rest)
    (h' : Login text user' password' part' database' rest') :
    user = user' ∧ password = password' ∧ part = part' ∧ database = database' := by
  obtain ⟨taken, hfirst⟩ := @first_of_login none _ _ _ _ _ _ h
  obtain ⟨taken', hfirst'⟩ := @first_of_login none _ _ _ _ _ _ h'
  have hfound := Option.some.inj (hfirst.symm.trans hfirst')
  simp only [Taken.mk.injEq, List.cons.injEq, Prod.mk.injEq, true_and, and_true] at hfound
  exact hfound.2.1

-- What stands behind the user and the password is what the gateway finds first, and nothing has a
-- separator at its end that is a blank to the platform only.
structure Plain (env : LocalEnvironment) (dsn : String) : Prop where
  leftmost : ∀ user password part database rest, Login dsn.toList user password part database rest →
    Leftmost dsn.toList (user ++ ':' :: password)
  blanks : ∀ user password part database rest, Login dsn.toList user password part database rest →
    SameBlanks (String.ofList part)
  allowed : SameBlanks env.allowNonCanonicalLocalDB
  canonical : SameBlanks env.mysqlCanonicalLocalDatabase

theorem leftmost_of_not_mem {text front : List Char} (h : Splits text front part database rest)
    (hat : '@' ∉ front) : Leftmost text front := by
  intro other part' database' rest' hother
  by_contra hshorter
  obtain ⟨late, rfl⟩ : other <+: front :=
    List.prefix_of_prefix_length_le ⟨_, hother.text_eq.symm⟩ ⟨_, h.text_eq.symm⟩
      (Nat.le_of_lt (Nat.not_le.mp hshorter))
  have htext := h.text_eq.symm.trans hother.text_eq
  rw [List.append_assoc] at htext
  cases late with
  | nil => exact hshorter (by rw [List.append_nil])
  | cons letter late =>
    obtain rfl : letter = '@' := (List.cons.inj (List.append_cancel_left htext)).1
    exact hat (List.mem_append_right _ List.mem_cons_self)

theorem Plain.of_login (h : Login dsn.toList user password part database rest) (hat : '@' ∉ user)
    (hblanks : SameBlanks (String.ofList part))
    (hallowed : SameBlanks env.allowNonCanonicalLocalDB)
    (hcanonical : SameBlanks env.mysqlCanonicalLocalDatabase) : Plain env dsn where
  leftmost user' password' part' database' rest' hlogin := by
    obtain ⟨rfl, rfl, -, -⟩ := h.unique hlogin
    refine leftmost_of_not_mem hlogin.splits fun hmem => ?_
    rcases List.mem_append.mp hmem with huser | hbehind
    · exact hat huser
    · rcases List.mem_cons.mp hbehind with heq | hpassword
      · exact absurd heq (by decide)
      · exact h.noAt hpassword
  blanks user' password' part' database' rest' hlogin := by
    obtain ⟨-, -, rfl, -⟩ := h.unique hlogin
    exact hblanks
  allowed := hallowed
  canonical := hcanonical

-- A login that both can read keeps its host and its database, and the word that only the platform
-- knows lets nothing through. Where the platform reads no login, the gateway refuses nothing.
structure Agreed (go : Go.Runtime) (isDigit : Char → Bool) (int : String → Except String Int)
    (env : LocalEnvironment) (dsn : String) : Prop where
  read : ∀ user password part database rest, Login dsn.toList user password part database rest →
    Readable isDigit int part →
      SameHost isDigit (Go.trimSpace (String.ofList part)) ∧
        Go.trimSpace (String.ofList database) = String.ofList database ∧
        (SaysEnabled go env → isLocalMySQLHost go (hostOf (String.ofList part)) = true →
          String.ofList database = canonicalOf env)
  unread : (∀ user password part database rest,
      Login dsn.toList user password part database rest → ¬Readable isDigit int part) →
    ∀ front part database rest, Splits dsn.toList front part database rest →
      Leftmost dsn.toList front → isLocalMySQLHost go (hostOf (String.ofList part)) = true →
        envTruthy go env.allowNonCanonicalLocalDB = true ∨
          Go.trimSpace (String.ofList database) = canonicalOf env

-- The other word is none of those that both know.
theorem SaysEnabled.not_truthy (h : SaysEnabled go env) :
    envTruthy go env.allowNonCanonicalLocalDB = false := by
  unfold envTruthy
  rw [SaysEnabled] at h
  rw [h]
  decide

theorem refusal_iff {host named : String} (hcase : SameCase go python)
    (hallowed : SameBlanks env.allowNonCanonicalLocalDB)
    (hcanonical : SameBlanks env.mysqlCanonicalLocalDatabase) (hhost : SameBlanks host) :
    (refusal go env host named ≠ none ↔ Platform.refusal python env host named ≠ none) ↔
      (SaysEnabled go env → isLocalMySQLHost go host = true → named = canonicalOf env) := by
  rw [refusal_ne_none_iff, Platform.refusal_ne_none_iff, isLocalMySQLHost_eq hcase hhost,
    canonicalOf_eq hcanonical, envBool_eq_true_iff hcase hallowed]
  constructor
  · intro hsame henabled hlocal
    by_contra hother
    refine (hsame.mp ⟨hlocal, ?_⟩).2 (.inl (.inr henabled))
    rintro (htruthy | heq)
    · exact absurd (htruthy.symm.trans henabled.not_truthy) Bool.true_eq_false.mp
    · exact hother heq
  · intro hword
    refine ⟨fun ⟨hlocal, hrefused⟩ => ⟨hlocal, ?_⟩, fun ⟨hlocal, hrefused⟩ => ⟨hlocal, ?_⟩⟩
    · rintro ((htruthy | henabled) | heq)
      · exact hrefused (.inl htruthy)
      · exact hrefused (.inr (hword henabled hlocal))
      · exact hrefused (.inr heq)
    · rintro (htruthy | heq)
      · exact hrefused (.inl (.inl htruthy))
      · exact hrefused (.inr heq)

theorem guardsAgree_of_read (hcase : SameCase go python) (hplain : Plain env dsn)
    (hlogin : Login dsn.toList user password part database rest)
    (hread : Readable isDigit int part) :
    GuardsAgree go python isDigit int env dsn ↔
      SameHost isDigit (Go.trimSpace (String.ofList part)) ∧
        Go.trimSpace (String.ofList database) = String.ofList database ∧
        (SaysEnabled go env → isLocalMySQLHost go (hostOf (String.ofList part)) = true →
          String.ofList database = canonicalOf env) := by
  obtain ⟨host, port, hport⟩ := hread
  have hblanks := hplain.blanks user password part database rest hlogin
  have hgo := parseGo_of_splits hlogin.splits
    (hplain.leftmost user password part database rest hlogin)
  have hpython := @parsePython_of_login isDigit int _ _ _ _ _ _ hlogin
  rw [hport] at hpython
  have hhost := hostOf_eq_iff hblanks.strip_eq hport
  have hrefused := @refusal_iff _ _ env (hostOf (String.ofList part)) (String.ofList database) hcase
    hplain.allowed hplain.canonical (hblanks.mono hostOf_subset)
  constructor
  · intro hagree
    have hsame := hagree.same _ _ _ hgo hpython
    have hboth := hagree.refused
    rw [goRefuses_iff hgo, pythonRefuses_iff hpython, ← hsame.2, hsame.1] at hboth
    exact ⟨hhost.mp hsame.1.symm, hsame.2.symm, hrefused.mp hboth⟩
  · rintro ⟨hsame, hdatabase, hword⟩
    obtain rfl := hhost.mpr hsame
    rw [hdatabase] at hgo
    refine ⟨fun host' named config hgo' hpython' => ?_, ?_⟩
    · obtain ⟨rfl, rfl⟩ := Prod.mk.inj (Option.some.inj (hgo.symm.trans hgo'))
      obtain rfl := Option.some.inj (Except.ok.inj (hpython.symm.trans hpython'))
      exact ⟨rfl, rfl⟩
    · rw [goRefuses_iff hgo, pythonRefuses_iff hpython]
      exact hrefused.mpr hword

theorem guardsAgree_of_unread
    (hunread : ∀ user password part database rest,
      Login dsn.toList user password part database rest → ¬Readable isDigit int part) :
    GuardsAgree go python isDigit int env dsn ↔
      ∀ front part database rest, Splits dsn.toList front part database rest →
        Leftmost dsn.toList front → isLocalMySQLHost go (hostOf (String.ofList part)) = true →
          envTruthy go env.allowNonCanonicalLocalDB = true ∨
            Go.trimSpace (String.ofList database) = canonicalOf env := by
  have hpython : ∀ config, Platform.parseGoMySQLDSN isDigit int dsn ≠ .ok (some config) := by
    intro config hread
    by_cases hlogin : ∃ user password part database rest,
        Login dsn.toList user password part database rest
    · obtain ⟨user, password, part, database, rest, hlogin⟩ := hlogin
      rw [parsePython_of_login hlogin] at hread
      cases hport : Platform.parseMySQLHostPort isDigit int (String.ofList part) with
      | error raised =>
        rw [hport] at hread
        exact nomatch hread
      | ok found => exact hunread _ _ _ _ _ hlogin ⟨found.1, found.2, hport⟩
    · rw [parsePython_eq_none fun user password part database rest hsome =>
        hlogin ⟨user, password, part, database, rest, hsome⟩] at hread
      exact nomatch hread
  constructor
  · intro hagree front part database rest hsplits hleftmost hlocal
    by_contra hrefused
    refine not_pythonRefuses hpython (hagree.refused.mp ?_)
    rw [goRefuses_iff (parseGo_of_splits hsplits hleftmost), refusal_ne_none_iff]
    exact ⟨hlocal, hrefused⟩
  · intro hunrefused
    refine ⟨fun _ _ config _ hread => absurd hread (hpython config), iff_of_false ?_
      (not_pythonRefuses hpython)⟩
    rcases @search_tcpRE dsn.toList with
      ⟨front, part, database, rest, hsplits, hleftmost, -⟩ | ⟨hnone, -⟩
    · rw [goRefuses_iff (parseGo_of_splits hsplits hleftmost), refusal_ne_none_iff]
      rintro ⟨hlocal, hrefused⟩
      exact hrefused (hunrefused front part database rest hsplits hleftmost hlocal)
    · exact not_goRefuses (parseGo_eq_none hnone)

-- The interpreter's int, on digits alone.
def sampleInt (text : String) : Except String Int :=
  if Platform.isDigits Char.isDigit text then
    .ok (text.toList.foldl (fun value digit => 10 * value + (digit.toNat - '0'.toNat)) 0)
  else .error "invalid literal for int()"

-- A colon without a port ends the host of the gateway, and is a part of the platform's; and the
-- word that only the platform knows lets a database through.

end Troubleshooter.Storage
