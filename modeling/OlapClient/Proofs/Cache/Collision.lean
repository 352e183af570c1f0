import Mathlib.Data.List.Find
import OlapClient.Proofs.Cache.Listing

namespace OlapClient.Cache

open Location (Url)

/-!
# Recordings and collisions

Several stores share the directory of their recordings, are opened and closed, and name their files
by a digest that may give one name to several keys. A look-up all the same never answers with a
response of another request, and misses one that was put only if its file was lost to another key.

* `Shelf`, `Action`, `Shelf.step`, `Shelf.run` — stores over one tree of files, and what they do.
* `Deposit`, `Shelf.note`, `Shelf.log` — the puts since the last flush, the latest first.
* `Shelf.Allows` — stores are opened in one place, and a flush is not refused by the system.
* `Shelf.Follows` — each file is the recording of the latest put that has its name.
* `Shelf.follows_step`, `Shelf.follows_run` — every step, and so every run, keeps this.
* `replay_sound` — what a look-up answers after any run.
-/

variable {H : Digest}

/-! ### Runs -/

/-- Stores of recordings over one tree of files. -/
structure Shelf where
  files : Files
  stores : List Replay

/-- What is asked of stores, each meant by its number. Look-ups are no actions, since they change
nothing. -/
inductive Action where
  | create (root : WrittenPath)
  | close (store : Nat)
  | configure (store : Nat) (nonce : String) (connection cache : PropertyMap)
  | put (store : Nat) (nonce : String) (id : SessionId) (url : Url) (request response : Bytes)
  | flush (store : Nat)

/-- A response that was put into a partition under a key. -/
structure Deposit where
  partition : String
  key : EntryKey
  response : Bytes
deriving DecidableEq, Repr

/-- The deposits in one partition. -/
def depositsIn (partition : String) (log : List Deposit) : List Deposit :=
  log.filter (·.partition == partition)

/-- The log after a put that may have failed. -/
def enter {ε : Type} (log : List Deposit) (w : Deposit) : Except ε Unit → List Deposit
  | .ok _ => w :: log
  | .error _ => log

theorem enter_mapError {ε ε' : Type} (log : List Deposit) (w : Deposit) (f : ε → ε')
    (result : Except ε Unit) : enter log w (result.mapError f) = enter log w result := by
  cases result <;> rfl

/-- The latest deposit of a key. -/
def latestDeposit? (deposits : List Deposit) (key : EntryKey) : Option Deposit :=
  deposits.find? (·.key == key)

/-- The latest deposit whose file has the given names. -/
def latestAt? (H : Digest) (log : List Deposit) (outer inner : String) : Option Deposit :=
  log.find? fun w => H.directoryName w.partition == outer && H.fileName w.key == inner

theorem latestAt?_cons (H : Digest) (w : Deposit) (log : List Deposit) (outer inner : String) :
    latestAt? H (w :: log) outer inner =
      if H.directoryName w.partition = outer ∧ H.fileName w.key = inner then some w
      else latestAt? H log outer inner := by
  unfold latestAt?
  split
  · rename_i hat
    exact List.find?_cons_of_pos (by simp [hat])
  · rename_i hat
    exact List.find?_cons_of_neg (by simpa using hat)

/-- After the latest deposit of a key came one of another key whose file has the same name. -/
def Overwritten (H : Digest) (deposits : List Deposit) (key : EntryKey) : Prop :=
  ∃ later w earlier, deposits = later ++ w :: earlier ∧ w.key = key ∧
    (∀ x ∈ later, x.key ≠ key) ∧ ∃ x ∈ later, H.entryName x.key = H.entryName key

namespace Shelf

/-- No stores yet. -/
def fresh (files : Files) : Shelf :=
  ⟨files, []⟩

/-- Do one action. One that fails leaves what it has done to the files. -/
def step (H : Digest) (s : Shelf) : Action → Shelf
  | .create root =>
    match Replay.create s.files root with
    | (.ok r, files) => ⟨files, s.stores ++ [r]⟩
    | (.error _, files) => { s with files }
  | .close store => { s with stores := s.stores.eraseIdx store }
  | .configure store nonce connection cache =>
    match s.stores[store]? with
    | none => s
    | some r => { s with stores := s.stores.set store (r.configure nonce connection cache).2 }
  | .put store nonce id url request response =>
    match s.stores[store]? with
    | none => s
    | some r => { s with files := (H.put r s.files nonce id url request response).2 }
  | .flush store =>
    match s.stores[store]? with
    | none => s
    | some r => { s with files := r.flush s.files }

/-- Do actions, one after the other. -/
def run (H : Digest) (s : Shelf) : List Action → Shelf
  | [] => s
  | a :: rest => (s.step H a).run H rest

/-- The log after an action: a put that succeeds is added, and a flush begins anew. -/
def note (H : Digest) (s : Shelf) (log : List Deposit) : Action → List Deposit
  | .put store nonce id url request response =>
    match s.stores[store]? with
    | none => log
    | some r =>
      match r.registry.partitionOf id with
      | .error _ => log
      | .ok partition => enter log ⟨partition, .of url request, response⟩
          (H.put r s.files nonce id url request response).1
  | .flush store => if (s.stores[store]?).isSome then [] else log
  | _ => log

/-- The log after actions. -/
def log (H : Digest) (s : Shelf) (entered : List Deposit) : List Action → List Deposit
  | [] => entered
  | a :: rest => (s.step H a).log H (s.note H entered a) rest

/-- Stores are opened in one place only, however it is written, and the system refuses no operation
of a flush. -/
def Allows (place : Path) (s : Shelf) : Action → Prop
  | .create root => s.files.placeOf root = place
  | .flush store => ∀ r, s.stores[store]? = some r → Flushes r s.files
  | _ => True

/-- Every action is allowed when its turn comes. -/
def AllowsAll (H : Digest) (place : Path) (s : Shelf) : List Action → Prop
  | [] => True
  | a :: rest => s.Allows place a ∧ (s.step H a).AllowsAll H place rest

/-! ### Files and their log -/

/-- The stores' roots lead to the place, and each file of a recording below it is that of the latest
deposit that has its name. -/
structure Follows (H : Digest) (place : Path) (s : Shelf) (log : List Deposit) : Prop where
  wellFormed : s.files.WellFormed
  leads : ∀ r ∈ s.stores, s.files.Leads r.root place
  contents : ∀ outer inner, isEntryName inner = true →
    s.files.content? (place ++ [outer, inner]) =
      (latestAt? H log outer inner).map fun w => recording w.key w.response

variable {s : Shelf} {place : Path} {log : List Deposit}

theorem follows_fresh {fs : Files} (hwf : fs.WellFormed)
    (hempty : ∀ path, path ≠ [] → fs.node? (place ++ path) = none) :
    (fresh fs).Follows H place [] where
  wellFormed := hwf
  leads r hr := absurd hr List.not_mem_nil
  contents outer inner _ := by
    show fs.content? _ = none
    unfold Files.content?
    rw [hempty [outer, inner] (by simp)]

namespace Follows

/-- Other files that keep the directories, and have the same recordings. -/
theorem files (h : s.Follows H place log) {fs : Files} (hwf : fs.WellFormed)
    (hkeeps : s.files.KeepsDirectories fs)
    (hsame : ∀ outer inner, isEntryName inner = true →
      fs.content? (place ++ [outer, inner]) = s.files.content? (place ++ [outer, inner])) :
    Follows H place { s with files := fs } log where
  wellFormed := hwf
  leads r hr := (h.leads r hr).keeps hkeeps
  contents outer inner hinner := (hsame outer inner hinner).trans (h.contents outer inner hinner)

theorem create (h : s.Follows H place log) {root : WrittenPath}
    (hplace : s.files.placeOf root = place) : (s.step H (.create root)).Follows H place log := by
  obtain ⟨hwf, hadds⟩ := Files.makeDirectories_spec h.wellFormed root
  have hfiles := h.files hwf hadds.keeps fun outer inner _ =>
    hadds.content?_eq (place ++ [outer, inner])
  simp only [step, Replay.create]
  cases hmake : s.files.makeDirectories root with
  | mk result made =>
    rw [hmake] at hfiles
    cases result with
    | error e => exact hfiles
    | ok _ =>
      refine ⟨hfiles.wellFormed, fun r hr => ?_, hfiles.contents⟩
      rcases List.mem_append.1 hr with hold | hnew
      · exact hfiles.leads r hold
      · rw [List.mem_singleton] at hnew
        subst hnew
        rw [← hplace]
        exact Files.makeDirectories_leads h.wellFormed hmake

/-- A put that succeeds is the latest deposit at its file, and one that fails changes no
recording. -/
theorem put (h : s.Follows H place log) {r : Replay} (hr : r ∈ s.stores) (nonce : String)
    {partition : String} (key : EntryKey) (response : Bytes) :
    let written := writeAt s.files (H.directoryPath r.root partition)
      (H.draftPath r.root partition key nonce) (H.entryPath r.root partition key)
      (recording key response)
    Follows H place { s with files := written.2 }
      (enter log ⟨partition, key, response⟩ written.1) := by
  intro written
  obtain ⟨hwf, hkeeps, hcases⟩ := writeAt_spec (recording key response) h.wellFormed
    (h.leads r hr) (H.proper_directory partition) (H.proper_draft key nonce) (H.proper_entry key)
    (H.isEntryName_draft key nonce)
  rcases hcases with ⟨e, herror, hsame⟩ | ⟨hok, hnode⟩
  · have hresult : written.1 = .error e := herror
    rw [hresult]
    refine h.files hwf hkeeps fun outer inner hinner => ?_
    unfold Files.content?
    rw [← hsame outer inner hinner]
    rfl
  · have hresult : written.1 = .ok () := hok
    rw [hresult]
    refine ⟨hwf, fun r' hr' => (h.leads r' hr').keeps hkeeps, fun outer inner hinner => ?_⟩
    have hinside := hnode outer inner hinner
    show written.2.content? (place ++ [outer, inner]) =
      (latestAt? H (⟨partition, key, response⟩ :: log) outer inner).map _
    rw [latestAt?_cons]
    by_cases hat : H.directoryName partition = outer ∧ H.fileName key = inner
    · rw [if_pos hat] at hinside ⊢
      exact Files.content?_eq_some.2 hinside
    · rw [if_neg hat] at hinside ⊢
      rw [← h.contents outer inner hinner]
      unfold Files.content?
      rw [← hinside]
      rfl

theorem flush (h : s.Follows H place log) {r : Replay} (hr : r ∈ s.stores)
    (hflushes : Flushes r s.files) :
    Follows H place { s with files := r.flush s.files } [] := by
  obtain ⟨hwf, hkeeps, hnone⟩ := flush_spec h.wellFormed (h.leads r hr) hflushes
  exact ⟨hwf, fun r' hr' => (h.leads r' hr').keeps hkeeps, hnone⟩

end Follows

/-- Every action that is allowed keeps the files in step with the log. -/
theorem follows_step (h : s.Follows H place log) {a : Action} (ha : s.Allows place a) :
    (s.step H a).Follows H place (s.note H log a) := by
  cases a with
  | create root => exact h.create ha
  | close store =>
    exact ⟨h.wellFormed, fun r hr => h.leads r (List.mem_of_mem_eraseIdx hr), h.contents⟩
  | configure store nonce connection cache =>
    simp only [step, note]
    split
    · exact h
    · rename_i r hstore
      refine ⟨h.wellFormed, fun r' hr' => ?_, h.contents⟩
      rcases List.mem_or_eq_of_mem_set hr' with hold | hnew
      · exact h.leads r' hold
      · rw [hnew]
        exact h.leads r (List.mem_of_getElem? hstore)
  | put store nonce id url request response =>
    simp only [step, note]
    cases hstore : s.stores[store]? with
    | none => exact h
    | some r =>
      have hr := List.mem_of_getElem? hstore
      dsimp only
      obtain ⟨e, hput⟩ | ⟨partition, hpartition, hput⟩ :=
        H.put_cases r s.files nonce id url request response
      · rw [hput]
        cases r.registry.partitionOf id with
        | error _ => exact h
        | ok _ => exact h
      · rw [hput, hpartition]
        dsimp only
        rw [enter_mapError]
        exact h.put hr nonce (.of url request) response
  | flush store =>
    simp only [step, note]
    cases hstore : s.stores[store]? with
    | none => exact h
    | some r => exact h.flush (List.mem_of_getElem? hstore) (ha r hstore)

/-- Every run that is allowed keeps the files in step with the log. -/
theorem follows_run (h : s.Follows H place log) {actions : List Action}
    (hall : s.AllowsAll H place actions) :
    (s.run H actions).Follows H place (s.log H log actions) := by
  induction actions generalizing s log with
  | nil => exact h
  | cons a rest ih => exact ih (follows_step h hall.1) hall.2

/-- A file that is read is the recording of the latest deposit that has its name. -/
theorem Follows.latestAt?_of_read (h : s.Follows H place log) {r : Replay} (hr : r ∈ s.stores)
    {partition : String} {key : EntryKey} {content : Bytes}
    (hread : s.files.read (H.entryPath r.root partition key) = .ok content) :
    ∃ w, latestAt? H log (H.directoryName partition) (H.fileName key) = some w ∧
      content = recording w.key w.response := by
  have hnode := Files.read_eq_ok hread
  have hplace : s.files.placeOf (H.entryPath r.root partition key) =
      place ++ [H.directoryName partition, H.fileName key] :=
    (h.leads r hr).placeOf_child_child (H.proper_directory partition) (H.proper_entry key)
  rw [hplace, ← Files.content?_eq_some, h.contents _ _ (H.isEntryName_entry key),
    Option.map_eq_some_iff] at hnode
  obtain ⟨w, hw, hcontent⟩ := hnode
  exact ⟨w, hw, hcontent.symm⟩

end Shelf

/-! ### Look-ups -/

/-- The latest deposit at a file is in the log, and its directory has the name of the file's. -/
theorem mem_of_latestAt? {log : List Deposit} {outer inner : String} {w : Deposit}
    (h : latestAt? H log outer inner = some w) : w ∈ log ∧ H.directoryName w.partition = outer := by
  have hnames : H.directoryName w.partition = outer ∧ H.fileName w.key = inner := by
    simpa using List.find?_some h
  exact ⟨List.mem_of_find?_eq_some h, hnames.1⟩

/-- The latest deposit of a key in a partition is looked for among those of its file. -/
theorem latestDeposit?_of_latestAt? {log : List Deposit} {partition : String} {key : EntryKey}
    {w : Deposit} (h : latestAt? H log (H.directoryName partition) (H.fileName key) = some w)
    (hpartition : w.partition = partition) (hkey : w.key = key) :
    latestDeposit? (depositsIn partition log) key = some w := by
  unfold latestDeposit? depositsIn
  rw [List.find?_filter]
  -- whatever comes before the deposit at the file is at another file, so of another key
  obtain ⟨_, later, earlier, hlog, hother⟩ := List.find?_eq_some_iff_append.1 h
  refine List.find?_eq_some_iff_append.2 ⟨by simp [hpartition, hkey], later, earlier, hlog, ?_⟩
  intro x hx
  have hne := hother x hx
  by_contra hsame
  have hsame : x.partition = partition ∧ x.key = key := by simpa using hsame
  rw [hsame.1, hsame.2] at hne
  simp at hne

/-- The file of a key that was put has a latest deposit. -/
theorem latestAt?_of_latestDeposit? {log : List Deposit} {partition : String} {key : EntryKey}
    {w : Deposit} (h : latestDeposit? (depositsIn partition log) key = some w) :
    ∃ x, latestAt? H log (H.directoryName partition) (H.fileName key) = some x := by
  obtain ⟨hmem, hpartition⟩ := List.mem_filter.1 (List.mem_of_find?_eq_some h)
  have hpartition : w.partition = partition := by simpa using hpartition
  have hkey : w.key = key := by simpa using List.find?_some h
  rw [← Option.isSome_iff_exists, latestAt?, List.find?_isSome]
  exact ⟨w, hmem, by simp [hpartition, hkey]⟩

/-- If the latest deposit at a key's file is of another key, the latest deposit of the key was
overwritten. -/
theorem overwritten_of_latestAt? {log : List Deposit} {partition : String} {key : EntryKey}
    {w x : Deposit}
    (hinj : ∀ y ∈ log, H.directoryName y.partition = H.directoryName partition →
      y.partition = partition)
    (hlatest : latestDeposit? (depositsIn partition log) key = some w)
    (hat : latestAt? H log (H.directoryName partition) (H.fileName key) = some x)
    (hne : x.key ≠ key) : Overwritten H (depositsIn partition log) key := by
  obtain ⟨hkey, later, earlier, hdeposits, hother⟩ := List.find?_eq_some_iff_append.1 hlatest
  have hkey : w.key = key := by simpa using hkey
  have hother : ∀ y ∈ later, y.key ≠ key := fun y hy => by simpa using hother y hy
  -- within the partition, the deposits at the file are those with its name
  have hin : (depositsIn partition log).find? (fun y => H.fileName y.key == H.fileName key) =
      some x := by
    rw [depositsIn, List.find?_filter, ← hat, latestAt?]
    refine List.find?_congr fun y hy => ?_
    by_cases hpartition : y.partition = partition
    · simp [hpartition]
      rfl
    · have hdirectory : H.directoryName y.partition ≠ H.directoryName partition :=
        fun heq => hpartition (hinj y hy heq)
      simp [hpartition, hdirectory]
  rw [hdeposits, List.find?_append] at hin
  refine ⟨later, w, earlier, hdeposits, hkey, hother, ?_⟩
  cases hlater : later.find? (fun y => H.fileName y.key == H.fileName key) with
  | none =>
    -- then it would be the deposit of the key itself
    rw [hlater, Option.none_or, List.find?_cons_of_pos (by simp [hkey])] at hin
    cases hin
    exact absurd hkey hne
  | some y =>
    have hname : H.fileName y.key = H.fileName key := by simpa using List.find?_some hlater
    exact ⟨y, List.mem_of_find?_eq_some hlater, H.fileName_inj hname⟩

/-- **Recordings are sound under collisions.** Let any function name the directories and files, as
long as it gives no two partitions in use one directory. After any run over a place that was empty,
a look-up that finds a response finds that of the latest put of its partition, location and request
since the last flush. A look-up finds nothing only if there is no such put, or if a later put of
another location or request, whose file has the same name, overwrote it. -/
theorem replay_sound (H : Digest) {fs : Files} {place : Path} (hwf : fs.WellFormed)
    (hempty : ∀ path, path ≠ [] → fs.node? (place ++ path) = none) {actions : List Action}
    (hall : (Shelf.fresh fs).AllowsAll H place actions) {r : Replay}
    (hr : r ∈ ((Shelf.fresh fs).run H actions).stores) {id : SessionId} {partition : String}
    (hpartition : r.registry.partitionOf id = .ok partition)
    (hinj : ∀ w ∈ (Shelf.fresh fs).log H [] actions,
      H.directoryName w.partition = H.directoryName partition → w.partition = partition)
    (hkeys : ∀ w ∈ (Shelf.fresh fs).log H [] actions, w.key.Writable) (url : Url)
    (request : Bytes) :
    let files := ((Shelf.fresh fs).run H actions).files
    let deposits := depositsIn partition ((Shelf.fresh fs).log H [] actions)
    (∀ response, H.get r files id url request = .ok (some response) →
      ∃ w, latestDeposit? deposits (.of url request) = some w ∧ w.response = response) ∧
    (H.get r files id url request = .ok none →
      latestDeposit? deposits (.of url request) = none ∨
        Overwritten H deposits (.of url request)) := by
  intro files deposits
  have h := Shelf.follows_run (Shelf.follows_fresh (H := H) hwf hempty) hall
  -- a deposit in the directory is one in the partition, and its key can be written
  have hlog : ∀ {w inner}, latestAt? H ((Shelf.fresh fs).log H [] actions)
      (H.directoryName partition) inner = some w → w.partition = partition ∧ w.key.Writable := by
    intro w inner hw
    obtain ⟨hmem, hdirectory⟩ := mem_of_latestAt? hw
    exact ⟨hinj w hmem hdirectory, hkeys w hmem⟩
  constructor
  · intro response hget
    obtain ⟨content, hcontent, hrecorded⟩ := readAt_eq_some (H.readAt_of_get hpartition hget)
    obtain ⟨w, hw, rfl⟩ := h.latestAt?_of_read hr hcontent
    obtain ⟨hin, hwritable⟩ := hlog hw
    obtain ⟨hkey, rfl⟩ := recorded?_recording hwritable hrecorded
    exact ⟨w, latestDeposit?_of_latestAt? hw hin hkey.symm, rfl⟩
  · intro hget
    refine or_iff_not_imp_left.2 fun hput => ?_
    obtain ⟨w, hlatest⟩ := Option.ne_none_iff_exists'.1 hput
    rcases readAt_eq_none (H.readAt_of_get hpartition hget) with hnone | ⟨content, hcontent, hother⟩
    · -- a deposit has a file, so something is there
      have hnode := Files.node?_of_read_notFound h.wellFormed (h.leads r hr)
        (H.proper_directory partition) (H.proper_entry _) hnone
      have hcontents := h.contents (H.directoryName partition) (H.fileName (.of url request))
        (H.isEntryName_entry _)
      obtain ⟨x, hx⟩ := latestAt?_of_latestDeposit? (H := H) hlatest
      rw [hx, Files.content?, hnode] at hcontents
      cases hcontents
    · obtain ⟨x, hx, rfl⟩ := h.latestAt?_of_read hr hcontent
      refine overwritten_of_latestAt? hinj hlatest hx fun hkey => ?_
      rw [← hkey, recorded?_recording_self (hlog hx).2] at hother
      cases hother

/-- Where all digests are the same, the second of two requests takes the file of the first, which is
then missed and not answered with the wrong response. -/
theorem replay_sound_one_digest :
    let H : Digest := ⟨fun _ => List.replicate 32 0, fun _ => List.length_replicate⟩
    let url : Url := ⟨"http", none, .segments [[]], none, none⟩
    let actions : List Action :=
      [.create (.ofString "/store"), .configure 0 "a" ∅ ∅, .put 0 "x" ⟨"s1-a"⟩ url [1] [10],
        .put 0 "y" ⟨"s1-a"⟩ url [2] [20]]
    let deposits := depositsIn "shared:default" ((Shelf.fresh .empty).log H [] actions)
    Overwritten H deposits (.of url [1]) ∧
      ∃ w, latestDeposit? deposits (.of url [2]) = some w ∧ w.response = [20] := by
  intro H url actions deposits
  -- the whole run is computed once, with what the store of it then answers
  have hrun : (Shelf.fresh .empty).log H [] actions =
        [⟨"shared:default", .of url [2], [20]⟩, ⟨"shared:default", .of url [1], [10]⟩] ∧
      ((Shelf.fresh .empty).run H actions).stores.map (fun r =>
        (r.registry.partitionOf ⟨"s1-a"⟩,
          H.get r ((Shelf.fresh .empty).run H actions).files ⟨"s1-a"⟩ url [1],
          H.get r ((Shelf.fresh .empty).run H actions).files ⟨"s1-a"⟩ url [2])) =
        [(.ok "shared:default", .ok none, .ok (some [20]))] := by
    decide +kernel
  obtain ⟨hlog, hstores⟩ := hrun
  obtain ⟨r, rest, hr, hanswers, _⟩ := List.map_eq_cons_iff.1 hstores
  simp only [Prod.mk.injEq] at hanswers
  obtain ⟨hpartition, hmissed, hfound⟩ := hanswers
  have hkey : ∀ b : UInt8, (EntryKey.of url [b]).Writable := by
    refine fun b => ⟨?_, by simp [EntryKey.of, Writable]⟩
    show (Utf8.encodeString url.text).length < _
    decide +kernel
  have hplace : Files.empty.placeOf (.ofString "/store") = ["store"] := by
    decide +kernel
  have hempty : ∀ path, path ≠ [] → Files.empty.node? (["store"] ++ path) = none := fun path _ => by
    rw [Files.node?_empty]
    simp
  have hall : (Shelf.fresh .empty).AllowsAll H ["store"] actions :=
    ⟨hplace, trivial, trivial, trivial, trivial⟩
  have hsound := replay_sound H Files.wellFormed_empty hempty hall
    (by rw [hr]; exact List.mem_cons_self) hpartition (by rw [hlog]; simp)
    (by rw [hlog]; simp [hkey]) url
  refine ⟨((hsound [1]).2 hmissed).resolve_left ?_, (hsound [2]).1 [20] hfound⟩
  rw [hlog]
  decide +kernel

end OlapClient.Cache
