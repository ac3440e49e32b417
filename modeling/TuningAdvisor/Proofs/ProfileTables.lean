import Mathlib
import TuningAdvisor.Proofs.Directories
import TuningAdvisor.Proofs.Lists
/-!
# Profile stores are tables: `ProfileStore` over a `DirectoryLoader`

A profile store loads its profiles when it is first asked, puts those of a directory in place of the built-in ones, and
remembers a load that failed. None of this can be told from its answers: **a store over a directory answers as a plain
table that had all profiles from the start**, or fails in every call as the first file did that has no profile
(`directory_refines_table`). The relation of a store to its table is kept by every call (`Represents.ask`).
-/

namespace TuningAdvisor

/-- What a profile store can be asked. -/
inductive ProfileCall where
  | get (name : String)
  | add (p : Profile)
  | remove (name : String)
  | names

/-- What is answered: all names, or the profile of a name, as it was before an addition or a removal. -/
inductive ProfileAnswer where
  | profile (found : Option Profile)
  | names (all : List String)

/-! ## Tables -/

/-- A plain table of profiles by their names. -/
abbrev ProfileTable := Finmap fun _ : String => Profile

namespace ProfileTable

/-- The answer of a table, and the table behind the call. -/
def ask (t : ProfileTable) : ProfileCall → ProfileAnswer × ProfileTable
  | .get name => (.profile (t.lookup name), t)
  | .add p => (.profile (t.lookup p.name), t.insert p.name p)
  | .remove name => (.profile (t.lookup name), t.erase name)
  | .names => (.names (t.keys.sort (· ≤ ·)), t)

/-- The answers to calls, one after the other. -/
def answers (t : ProfileTable) : List ProfileCall → List ProfileAnswer
  | [] => []
  | call :: rest => (t.ask call).1 :: answers (t.ask call).2 rest

/-- The table of profiles that are put into it one after the other. -/
def ofProfiles (ps : List Profile) : ProfileTable := ps.foldl (fun t p => t.insert p.name p) ∅

/-- The table of the built-in profiles, overlaid with others. -/
def overlaid (found : List Profile) : ProfileTable := ofProfiles (Profile.builtin ++ found)

theorem lookup_ofProfiles (ps : List Profile) (name : String) :
    (ofProfiles ps).lookup name = ps.reverse.find? (·.name == name) := by
  induction ps using List.reverseRecOn with
  | nil => rfl
  | append_singleton ps p ih =>
    have hstep : ofProfiles (ps ++ [p]) = (ofProfiles ps).insert p.name p := by simp [ofProfiles]
    rw [hstep, List.reverse_append, List.reverse_singleton, List.singleton_append, List.find?_cons]
    by_cases hname : p.name = name
    · subst hname
      rw [Finmap.lookup_insert, BEq.rfl]
    · rw [Finmap.lookup_insert_of_ne _ (Ne.symm hname), ih, beq_false_of_ne hname]

/-- The last profile of a name counts, and the built-in one where no other is put over it. -/
theorem lookup_overlaid (found : List Profile) (name : String) :
    (overlaid found).lookup name =
      (found.reverse.find? (·.name == name)).or (Profile.builtin.find? (·.name == name)) := by
  have hbuiltin : (Profile.builtin.map (·.name)).Nodup := by decide
  rw [overlaid, lookup_ofProfiles, List.reverse_append, List.find?_append, find?_reverse_of_nodup hbuiltin]

/-- A sorted map with the look-ups of a table has its names in order. -/
theorem keys_eq_sort {profiles : ProfileMap} {t : ProfileTable} (h : ∀ name, profiles.get? name = t.lookup name) :
    profiles.keys = t.keys.sort (· ≤ ·) := by
  have hsorted : profiles.keys.Pairwise (· ≤ ·) := by
    refine List.Pairwise.map _ (fun a b hlt => ?_) profiles.sorted
    exact (compare_lt_iff_lt.1 hlt).le
  have hperm : profiles.keys.Perm (t.keys.sort (· ≤ ·)) := by
    refine (List.perm_ext_iff_of_nodup (SortedMap.nodup_keys _) (Finset.sort_nodup _ _)).2 fun name => ?_
    rw [SortedMap.mem_keys_iff, h, Finset.mem_sort, Finmap.mem_keys, Finmap.lookup_isSome]
  exact hperm.eq_of_pairwise (fun a b _ _ => le_antisymm) hsorted (Finset.pairwise_sort _ _)

end ProfileTable

/-! ## Stores -/

namespace ProfileStore

/-- The answer of a store, and the store behind the call. -/
def ask (s : ProfileStore) : ProfileCall → Except ProfileError ProfileAnswer × ProfileStore
  | .get name => ((s.find name).map .profile, s.loaded)
  | .add p => ((s.add p).1.map .profile, (s.add p).2)
  | .remove name => ((s.remove name).1.map .profile, (s.remove name).2)
  | .names => (s.names.map .names, s.loaded)

/-- The answers to calls, one after the other. -/
def answers (s : ProfileStore) : List ProfileCall → List (Except ProfileError ProfileAnswer)
  | [] => []
  | call :: rest => (s.ask call).1 :: (s.ask call).2.answers rest

/-- The store has, or will have once it is asked, the profiles of a table. -/
def Represents (s : ProfileStore) (t : ProfileTable) : Prop :=
  ∃ profiles, s.contents = .ok profiles ∧ ∀ name, profiles.get? name = t.lookup name

/-- The load of the profiles has failed, or will. -/
def Failing (s : ProfileStore) (why : ProfileError) : Prop := s.contents = .error why

variable {s : ProfileStore} {t : ProfileTable} {why : ProfileError}

theorem change_of_ok {profiles : ProfileMap} (h : s.contents = .ok profiles) (name : String)
    (f : ProfileMap → ProfileMap) :
    s.change name f = (.ok (profiles.get? name), { s with cache := some (.ok (f profiles)) }) := by
  simp only [change, h]

theorem change_of_error (h : s.Failing why) (name : String) (f : ProfileMap → ProfileMap) :
    s.change name f = (.error why, s.loaded) := by
  simp only [change, show s.contents = .error why from h]

/-- **One call.** A store that represents a table answers as the table, and represents the table behind the call. -/
theorem Represents.ask (h : s.Represents t) (call : ProfileCall) :
    (s.ask call).1 = .ok (t.ask call).1 ∧ (s.ask call).2.Represents (t.ask call).2 := by
  obtain ⟨profiles, hcontents, hget⟩ := h
  have hloaded : s.loaded.Represents t := ⟨profiles, hcontents, hget⟩
  cases call with
  | get name =>
    refine ⟨?_, hloaded⟩
    simp only [ProfileStore.ask, find, hcontents, ProfileTable.ask, ← hget]
    rfl
  | add p =>
    simp only [ProfileStore.ask, add, change_of_ok hcontents, ProfileTable.ask, ← hget]
    refine ⟨rfl, profiles.insert p.name p, rfl, fun name => ?_⟩
    by_cases hname : name = p.name
    · rw [hname, SortedMap.get?_insert_self, Finmap.lookup_insert]
    · rw [SortedMap.get?_insert_of_ne _ _ hname, Finmap.lookup_insert_of_ne _ hname, hget]
  | remove gone =>
    simp only [ProfileStore.ask, remove, change_of_ok hcontents, ProfileTable.ask, ← hget]
    refine ⟨rfl, profiles.erase gone, rfl, fun name => ?_⟩
    by_cases hname : name = gone
    · rw [hname, SortedMap.get?_erase_self, Finmap.lookup_erase]
    · rw [SortedMap.get?_erase_of_ne _ hname, Finmap.lookup_erase_ne hname, hget]
  | names =>
    refine ⟨?_, hloaded⟩
    simp only [ProfileStore.ask, names, hcontents, ProfileTable.ask, ← ProfileTable.keys_eq_sort hget]
    rfl

theorem Represents.answers (h : s.Represents t) (calls : List ProfileCall) :
    s.answers calls = (t.answers calls).map .ok := by
  induction calls generalizing s t with
  | nil => rfl
  | cons call rest ih =>
    obtain ⟨hanswer, hnext⟩ := h.ask call
    rw [ProfileStore.answers, ProfileTable.answers, List.map_cons, hanswer, ih hnext]

/-- A failure is remembered by every call, writes included. -/
theorem Failing.ask (h : s.Failing why) (call : ProfileCall) :
    (s.ask call).1 = .error why ∧ (s.ask call).2.Failing why := by
  have hloaded : s.loaded.Failing why := h
  cases call with
  | get name =>
    refine ⟨?_, hloaded⟩
    simp only [ProfileStore.ask, find, show s.contents = .error why from h]
    rfl
  | add p =>
    simp only [ProfileStore.ask, add, change_of_error h]
    exact ⟨rfl, hloaded⟩
  | remove name =>
    simp only [ProfileStore.ask, remove, change_of_error h]
    exact ⟨rfl, hloaded⟩
  | names =>
    refine ⟨?_, hloaded⟩
    simp only [ProfileStore.ask, names, show s.contents = .error why from h]
    rfl

theorem Failing.answers (h : s.Failing why) (calls : List ProfileCall) :
    s.answers calls = calls.map fun _ => .error why := by
  induction calls generalizing s with
  | nil => rfl
  | cons call rest ih =>
    obtain ⟨hanswer, hnext⟩ := h.ask call
    rw [ProfileStore.answers, List.map_cons, hanswer, ih hnext]

/-! ## Loads -/

/-- A new store represents the profiles that its load finds, of those with one name the last. -/
theorem represents_of_load {source : ProfileSource} {loaded : List Profile} (h : source.load = .ok loaded) :
    ({ source } : ProfileStore).Represents (.ofProfiles loaded) := by
  refine ⟨.ofList (loaded.map fun p => (p.name, p)), ?_, fun name => ?_⟩
  · show fill source = _
    simp only [fill, h]
  · rw [SortedMap.get?_ofList, ProfileTable.lookup_ofProfiles, ← List.map_reverse, List.find?_map]
    simp [Function.comp_def]

/-- A new store whose load fails keeps the wording of the failure. -/
theorem failing_of_load {source : ProfileSource} (h : source.load = .error why) :
    ({ source } : ProfileStore).Failing (.loader why.message) := by
  show fill source = _
  simp only [fill, h]

end ProfileStore

namespace ProfileSource

/-- There is a profile at a path. -/
def HasProfile (files : FileTree) (path : String) (p : Profile) : Prop :=
  ∃ text, files.read path = .ok text ∧ Profile.decode.ofText text = .ok p

/-- Why there is no profile at a path: its text cannot be read, or says none. -/
inductive LacksProfile (files : FileTree) (path : String) : ProfileError → Prop
  | unreadable {why} (h : files.read path = .error why) : LacksProfile files path (.unreadable path why)
  | malformed {text why} (hread : files.read path = .ok text) (h : Profile.decode.ofText text = .error why) :
    LacksProfile files path (.malformed path why)

variable {files : FileTree} {path : String} {names : List String} {found : List Profile} {why : ProfileError}

theorem readFile_eq : readFile files path = match files.read path with
    | .error why => .error (.unreadable path why)
    | .ok text => (Profile.decode.ofText text).mapError (.malformed path) := by
  unfold readFile
  cases files.read path with
  | error why => rfl
  | ok text => rfl

theorem readFile_ok_iff {p : Profile} : readFile files path = .ok p ↔ HasProfile files path p := by
  rw [readFile_eq]
  constructor
  · intro h
    split at h
    · cases h
    · rename_i text hread
      exact ⟨text, hread, of_mapError_ok h⟩
  · rintro ⟨text, hread, h⟩
    simp only [hread, h, mapError_ok]

theorem readFile_error_iff : readFile files path = .error why ↔ LacksProfile files path why := by
  rw [readFile_eq]
  constructor
  · intro h
    split at h
    · rename_i hread
      cases h
      exact .unreadable hread
    · rename_i text hread
      obtain ⟨_, hparse, rfl⟩ := of_mapError_error h
      exact .malformed hread hparse
  · rintro (⟨hread⟩ | ⟨hread, h⟩)
    · simp only [hread]
    · simp only [hread, h]
      rfl

theorem HasProfile.not_lacks {p : Profile} (h : HasProfile files path p) : ¬LacksProfile files path why := by
  intro hwhy
  have hread := readFile_ok_iff.2 h
  rw [readFile_error_iff.2 hwhy] at hread
  cases hread

theorem exists_lacksProfile (h : ∀ p, ¬HasProfile files path p) : ∃ why, LacksProfile files path why := by
  cases hread : readFile files path with
  | error why => exact ⟨why, readFile_error_iff.1 hread⟩
  | ok p => exact absurd (readFile_ok_iff.1 hread) (h p)

theorem readDirectory_of_list (h : files.list path = .ok names) :
    readDirectory files path = (profilePaths path names).mapM (readFile files) := by
  simp only [readDirectory, h, mapError_ok, profilePaths]
  rw [List.mapM_map]
  rfl

/-! ## Overlays -/

theorem nodup_overlay {ps : List Profile} (h : (ps.map (·.name)).Nodup) (p : Profile) :
    ((overlay ps p).map (·.name)).Nodup := by
  rw [overlay, List.map_append, List.map_singleton, ← List.concat_eq_append, List.nodup_concat]
  refine ⟨?_, h.sublist (List.filter_sublist.map _)⟩
  simp

theorem nodup_overlays (found : List Profile) {ps : List Profile} (h : (ps.map (·.name)).Nodup) :
    ((found.foldl overlay ps).map (·.name)).Nodup := by
  induction found generalizing ps with
  | nil => exact h
  | cons p found ih => exact ih (nodup_overlay h p)

/-- The last profile of a name is the one that is put over the others, if it has the name. -/
theorem find?_reverse_overlay (ps : List Profile) (p : Profile) (name : String) :
    (overlay ps p).reverse.find? (·.name == name) = (ps ++ [p]).reverse.find? (·.name == name) := by
  rw [overlay, List.reverse_append, List.reverse_append, List.reverse_singleton, List.singleton_append,
    List.singleton_append, List.find?_cons, List.find?_cons, ← List.filter_reverse]
  by_cases hname : p.name = name
  · subst hname
    simp
  · have hkept : (fun q : Profile => decide ((q.name != p.name) = true ∧ (q.name == name) = true)) =
        fun q => q.name == name := by
      funext q
      by_cases hq : q.name = name
      · simp [hq, Ne.symm hname]
      · simp [hq]
    rw [beq_false_of_ne hname, List.find?_filter, hkept]

/-- What is put over others one after the other counts as what stands behind them. -/
theorem ofProfiles_overlays (ps found : List Profile) :
    ProfileTable.ofProfiles (found.foldl overlay ps) = ProfileTable.ofProfiles (ps ++ found) := by
  induction found using List.reverseRecOn with
  | nil => rw [List.foldl_nil, List.append_nil]
  | append_singleton found p ih =>
    refine Finmap.ext_lookup fun name => ?_
    have hearlier := congrArg (Finmap.lookup name) ih
    rw [ProfileTable.lookup_ofProfiles, ProfileTable.lookup_ofProfiles] at hearlier
    rw [ProfileTable.lookup_ofProfiles, ProfileTable.lookup_ofProfiles, List.foldl_append, List.foldl_cons,
      List.foldl_nil, find?_reverse_overlay, ← List.append_assoc, List.reverse_append, List.find?_append, hearlier,
      @List.reverse_append _ (ps ++ found), List.find?_append]

theorem load_directory_of_ok (h : readDirectory files path = .ok found) :
    (directory files path).load = .ok (found.foldl overlay Profile.builtin) := by
  simp only [load, h]
  rfl

theorem load_directory_of_error (h : readDirectory files path = .error why) :
    (directory files path).load = .error why := by
  simp only [load, h]
  rfl

theorem nodup_load_directory {loaded : List Profile} (h : (directory files path).load = .ok loaded) :
    (loaded.map (·.name)).Nodup := by
  obtain ⟨found, -, h⟩ := of_except_bind_ok h
  cases h
  exact nodup_overlays found (by decide)

end ProfileSource

/-! ## Stores over directories -/

namespace ProfileStore

open ProfileSource (HasProfile LacksProfile profilePaths)

/-- A new store over a directory. -/
def overDirectory (files : FileTree) (path : String) : ProfileStore := { source := .directory files path }

/-- What a store over a directory answers. -/
structure AnswersOver (files : FileTree) (path : String) : Prop where
  /-- The files are taken in the order of their paths. -/
  in_order : ∀ {names}, files.list path = .ok names → (profilePaths path names).Pairwise (· < ·)
  /-- What is loaded has no name twice. -/
  distinct : ∀ {loaded}, (ProfileSource.directory files path).load = .ok loaded → (loaded.map (·.name)).Nodup
  /-- If all files have a profile, the store is a table from the start: under a name it has the profile of the last
  file with the name, or else the built-in one. -/
  overlaid : ∀ {names found}, files.list path = .ok names →
    List.Forall₂ (HasProfile files) (profilePaths path names) found →
    ∃ t : ProfileTable,
      (∀ name, t.lookup name =
        (found.reverse.find? (·.name == name)).or (Profile.builtin.find? (·.name == name))) ∧
      ∀ calls, (overDirectory files path).answers calls = (t.answers calls).map .ok
  /-- If a file has none, all calls fail, each with the reason of the first such file. -/
  failed : ∀ {names}, files.list path = .ok names →
    (∃ failing ∈ profilePaths path names, ∀ p, ¬HasProfile files failing p) →
    ∃ before first after why, profilePaths path names = before ++ first :: after ∧
      (∀ earlier ∈ before, ∃ p, HasProfile files earlier p) ∧ LacksProfile files first why ∧
      ∀ calls, (overDirectory files path).answers calls = calls.map fun _ => .error (.loader why.message)
  /-- So they do if there is no such directory. -/
  unlisted : ∀ {why}, files.list path = .error why → ∀ calls,
    (overDirectory files path).answers calls =
      calls.map fun _ => .error (.loader (ProfileError.unreadable path why).message)

/-- **A store over a directory is a table, or fails in every call.** The table has the built-in profiles, overlaid with
those of the files in the order of their paths, and is changed by additions and removals only; whichever call comes
first, the load does not show. Where the directory or one of its files cannot be read, or a file says no profile, no
call answers with a profile, whatever has been added before. -/
theorem directory_refines_table (files : FileTree) (path : String) : AnswersOver files path where
  in_order := ProfileSource.pairwise_profilePaths
  distinct := ProfileSource.nodup_load_directory
  overlaid {names found} hlist hfound := by
    have hread : ProfileSource.readDirectory files path = .ok found := by
      rw [ProfileSource.readDirectory_of_list hlist, mapM_eq_ok_iff]
      exact hfound.imp fun _ _ => ProfileSource.readFile_ok_iff.2
    have hstore := represents_of_load (ProfileSource.load_directory_of_ok hread)
    rw [ProfileSource.ofProfiles_overlays] at hstore
    exact ⟨.overlaid found, ProfileTable.lookup_overlaid found, hstore.answers⟩
  failed {names} hlist hfailing := by
    have hfailing : ∃ failing ∈ profilePaths path names, ¬∃ p, HasProfile files failing p := by simpa using hfailing
    obtain ⟨before, first, after, hsplit, hbefore, hfirst⟩ := exists_first hfailing
    obtain ⟨why, hwhy⟩ := ProfileSource.exists_lacksProfile (not_exists.1 hfirst)
    have hread : ProfileSource.readDirectory files path = .error why := by
      rw [ProfileSource.readDirectory_of_list hlist, hsplit]
      refine mapM_append_cons_of_error ?_ (ProfileSource.readFile_error_iff.2 hwhy) after
      intro earlier hearlier
      obtain ⟨p, hp⟩ := hbefore earlier hearlier
      exact ⟨p, ProfileSource.readFile_ok_iff.2 hp⟩
    have hstore := failing_of_load (ProfileSource.load_directory_of_error hread)
    exact ⟨before, first, after, why, hsplit, hbefore, hwhy, hstore.answers⟩
  unlisted {why} hlist := by
    have hread : ProfileSource.readDirectory files path = .error (.unreadable path why) := by
      simp only [ProfileSource.readDirectory, hlist]
      rfl
    exact (failing_of_load (ProfileSource.load_directory_of_error hread)).answers

/-! ## Three files -/

/-- A directory with three profile files and a note. -/
def threeFiles (a b c : String) : FileTree where
  files := [(["p", "c.json"], c), (["p", "notes.txt"], "none"), (["p", "a.json"], a), (["p", "b.json"], b)]

section
variable (a b c : String)

theorem walk_threeFiles : (threeFiles a b c).walk "p" = .ok (.directory ["p"]) := by cbv

theorem list_threeFiles : (threeFiles a b c).list "p" = .ok ["a.json", "b.json", "c.json", "notes.txt"] := by
  have hsorted : (["c.json", "notes.txt", "a.json", "b.json"].mergeSort fun a b => decide (a ≤ b)) =
      ["a.json", "b.json", "c.json", "notes.txt"] := by simp [List.mergeSort]
  unfold FileTree.list
  rw [walk_threeFiles]
  show Except.ok (List.mergeSort ["c.json", "notes.txt", "a.json", "b.json"] _).eraseReps = _
  rw [hsorted]
  rfl

theorem profilePaths_threeFiles :
    profilePaths "p" ["a.json", "b.json", "c.json", "notes.txt"] = ["p/a.json", "p/b.json", "p/c.json"] := by cbv

theorem read_threeFiles : (threeFiles a b c).read "p/a.json" = .ok a ∧
    (threeFiles a b c).read "p/b.json" = .ok b ∧ (threeFiles a b c).read "p/c.json" = .ok c := by
  have hread (name text : String) (hplain : '/' ∉ name.toList ∧ Route.isHere name = false ∧ name ≠ "..")
      (hfile : (threeFiles a b c).file? ["p", name] = some text) :
      (threeFiles a b c).read ("p" ++ "/" ++ name) = .ok text := by
    have hwalk := FileTree.walk_below (walk_threeFiles a b c) hplain.1 hplain.2.1 hplain.2.2
    rw [FileTree.spot, List.singleton_append, hfile] at hwalk
    unfold FileTree.read
    rw [hwalk]
    rfl
  exact ⟨hread "a.json" a (by decide) rfl, hread "b.json" b (by decide) rfl, hread "c.json" c (by decide) rfl⟩

end

/-- A profile that has nothing but a name and a version. -/
def briefProfile (name version : String) : String :=
  "\x7b\"name\":\"" ++ name ++ "\",\"profile_version\":" ++ version ++ ",\"slo\":\x7b\x7d\x7d"

theorem decode_briefProfile (name version : String) {v : Float}
    (h : ((Profile.decode.ofText (briefProfile name version)).toOption.any fun p =>
      p.name == name && p.version == v) = true) :
    ∃ p, Profile.decode.ofText (briefProfile name version) = .ok p ∧ p.name = name ∧ (p.version == v) = true := by
  obtain ⟨p, hp, h⟩ := (Option.any_eq_true _ _).1 h
  rw [Bool.and_eq_true, beq_iff_eq] at h
  exact ⟨p, of_toOption_eq_some hp, h.1, h.2⟩

theorem decode_none : Profile.decode.ofText "none" = .error "expected ident at line 1 column 2" := by
  have hwhy : (match Profile.decode.ofText "none" with | .error why => why | .ok _ => "") =
      "expected ident at line 1 column 2" := by decide +kernel
  cases hparsed : Profile.decode.ofText "none" with
  | error why =>
    rw [hparsed] at hwhy
    exact congrArg Except.error hwhy
  | ok p => simp [hparsed] at hwhy

/-- Files of which two have one name, and one the name of a built-in profile. -/
def layeredFiles : FileTree :=
  threeFiles (briefProfile "latency" "1") (briefProfile "default" "2") (briefProfile "latency" "3")

/-- Files of which the second says no profile. -/
def spoiltFiles : FileTree := threeFiles (briefProfile "latency" "1") "none" (briefProfile "latency" "3")

/-- Of two files of one name the last one counts, and a file replaces a built-in profile; with a file that says no
profile, not even the built-in ones are there. -/
theorem layeredFiles_answer_spoiltFiles_fail :
    (∃ standard latency : Profile, standard.version == 2.0 ∧ latency.version == 3.0 ∧
      (overDirectory layeredFiles "p").answers [.get "default", .remove "latency", .get "latency"] =
        [.ok (.profile (some standard)), .ok (.profile (some latency)), .ok (.profile none)]) ∧
    ∀ calls, (overDirectory spoiltFiles "p").answers calls = calls.map fun _ =>
      .error (.loader "failed to parse profile p/b.json: expected ident at line 1 column 2") := by
  obtain ⟨first, hfirst, -, -⟩ := decode_briefProfile "latency" "1" (v := 1.0) (by decide +kernel)
  constructor
  · obtain ⟨standard, hstandard, hstandardName, htwo⟩ :=
      decode_briefProfile "default" "2" (v := 2.0) (by decide +kernel)
    obtain ⟨latency, hlatency, hlatencyName, hthree⟩ :=
      decode_briefProfile "latency" "3" (v := 3.0) (by decide +kernel)
    obtain ⟨ha, hb, hc⟩ := read_threeFiles (briefProfile "latency" "1") (briefProfile "default" "2")
      (briefProfile "latency" "3")
    have hfound : List.Forall₂ (HasProfile layeredFiles) ["p/a.json", "p/b.json", "p/c.json"]
        [first, standard, latency] :=
      .cons ⟨_, ha, hfirst⟩ (.cons ⟨_, hb, hstandard⟩ (.cons ⟨_, hc, hlatency⟩ .nil))
    rw [← profilePaths_threeFiles] at hfound
    obtain ⟨t, hlookup, hanswers⟩ :=
      (directory_refines_table layeredFiles "p").overlaid (list_threeFiles _ _ _) hfound
    have hdefault : t.lookup "default" = some standard := by simp [hlookup, hstandardName, hlatencyName]
    have hcustom : t.lookup "latency" = some latency := by simp [hlookup, hlatencyName]
    refine ⟨standard, latency, htwo, hthree, ?_⟩
    rw [hanswers]
    simp [ProfileTable.answers, ProfileTable.ask, hdefault, hcustom]
  · obtain ⟨ha, hb, -⟩ := read_threeFiles (briefProfile "latency" "1") "none" (briefProfile "latency" "3")
    have hlacks : LacksProfile spoiltFiles "p/b.json" _ := .malformed hb decode_none
    have hmem : "p/b.json" ∈ profilePaths "p" ["a.json", "b.json", "c.json", "notes.txt"] := by
      simp [profilePaths_threeFiles]
    obtain ⟨before, failing, after, why, hsplit, hbefore, hwhy, hanswers⟩ :=
      (directory_refines_table spoiltFiles "p").failed (list_threeFiles _ _ _)
        ⟨_, hmem, fun p hp => hp.not_lacks hlacks⟩
    -- the first file has a profile, so that the second one is the first that fails
    have hsplit : before ++ failing :: after = ["p/a.json"] ++ "p/b.json" :: ["p/c.json"] :=
      hsplit.symm.trans profilePaths_threeFiles
    have hfailing : failing = "p/b.json" := by
      refine first_unique hsplit hbefore (fun ⟨_, hp⟩ => hp.not_lacks hwhy) ?_ fun ⟨_, hp⟩ => hp.not_lacks hlacks
      intro earlier hearlier
      rw [List.mem_singleton.1 hearlier]
      exact ⟨first, _, ha, hfirst⟩
    subst hfailing
    have hreason := (ProfileSource.readFile_error_iff.2 hwhy).symm.trans (ProfileSource.readFile_error_iff.2 hlacks)
    rw [Except.error.inj hreason] at hanswers
    exact hanswers

end ProfileStore

end TuningAdvisor
