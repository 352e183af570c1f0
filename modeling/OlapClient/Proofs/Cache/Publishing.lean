import Mathlib.Data.List.Find
import Mathlib.Logic.Function.Basic
import OlapClient.Proofs.Cache.Listing

namespace OlapClient.Cache

open Location (Url)

/-!
# Recordings appear at once

A put is a number of steps on files, between which other puts take theirs, and after each of which
it may fail or stop. Look-ups do not see how far it has come: a recording appears wholly when the
draft is moved to its place, and until then nothing changes for anybody.

* `Publishes`, `Quiet` — a tree in which some recordings, or none, were moved to their places.
* `Publishes.readAt` — what is looked up in such a tree, by what was looked up before.
* `Writing`, `Stage`, `Scene` — puts, how far they have come, and the files that they share.
* `Scene.step`, `Scene.run` — one step of one put, and any number of them in any order.
* `Scene.step_alone` — the steps of one put, nothing coming between, are the put of a store.
* `Change`, `Scene.step_change` — what a step may do.
* `Scene.Sound`, `Scene.sound_run` — the files by what was moved, after any run.
* `put_atomic` — what look-ups answer after any run, and which steps they do not notice.
-/

/-! ### Trees in which recordings appear -/

/-- A tree in which new files were moved to places of recordings since another tree. What else is
new are directories in which nothing was, and files that are no recordings. -/
structure Publishes (place : Path) (new : String → String → Option Bytes) (fs fs' : Files) :
    Prop where
  wellFormed : fs'.WellFormed
  keeps : fs.KeepsDirectories fs'
  outer : ∀ name, fs'.node? (place ++ [name]) = fs.node? (place ++ [name]) ∨
    fs.node? (place ++ [name]) = none ∧ fs'.node? (place ++ [name]) = some .directory
  entries : ∀ name below, isEntryName below = true →
    fs'.node? (place ++ [name, below]) =
      ((new name below).map .file).or (fs.node? (place ++ [name, below]))

/-- A tree in which no recordings were moved to their places since another tree. -/
abbrev Quiet (place : Path) (fs fs' : Files) : Prop :=
  Publishes place (fun _ _ => none) fs fs'

namespace Publishes

variable {place : Path} {new later : String → String → Option Bytes} {fs fs' fs'' : Files}

theorem refl (place : Path) (hwf : fs.WellFormed) : Quiet place fs fs :=
  ⟨hwf, .refl fs, fun _ => .inl rfl, fun _ _ _ => rfl⟩

theorem keepsEntries (h : Quiet place fs fs') : KeepsEntries place fs fs' :=
  h.entries

/-- Of files that were moved to one place the latest counts. -/
theorem trans (h : Publishes place new fs fs') (h' : Publishes place later fs' fs'') :
    Publishes place (fun name below => (later name below).or (new name below)) fs fs'' where
  wellFormed := h'.wellFormed
  keeps := h.keeps.trans h'.keeps
  outer name := by
    rcases h.outer name with hsame | ⟨hnone, hmade⟩
    · rcases h'.outer name with hsame' | ⟨hnone', hmade'⟩
      · exact .inl (hsame'.trans hsame)
      · exact .inr ⟨hsame.symm.trans hnone', hmade'⟩
    · refine .inr ⟨hnone, ?_⟩
      have hkept := h'.keeps.directories _ (Files.isDirectoryAt_iff.2 hmade)
      exact Files.isDirectoryAt_iff.1 hkept
  entries name below hbelow := by
    rw [h'.entries name below hbelow, h.entries name below hbelow]
    cases later name below <;> rfl

/-- What is looked up is what was moved to its place last, or else what was looked up before. -/
theorem readAt (h : Publishes place new fs fs') (hwf : fs.WellFormed) {root : WrittenPath}
    (hlead : fs.Leads root place) {name below : String} (hname : ProperName name)
    (hbelow : ProperName below) (hshort : ¬ Files.longestName < Utf8.size below.toList)
    (hentry : isEntryName below = true) (key : EntryKey) :
    readAt fs' ((root.child name).child below) key =
      (readAt fs ((root.child name).child below) key).map fun before =>
        match new name below with
        | some content => recorded? key content
        | none => before := by
  have hinner := h.entries name below hentry
  unfold Cache.readAt
  rw [Files.read_below (hlead.keeps h.keeps) hname hbelow, Files.read_below hlead hname hbelow]
  cases hcheck : Files.check ((root.child name).child below) with
  | error e =>
    -- the system takes the path now as little as before, and not for want of a file
    have hne : e ≠ .notFound := by
      rintro rfl
      exact Files.check_child_ne_notFound _ hbelow.ne_empty hcheck
    cases e <;> first | rfl | exact absurd rfl hne
  | ok _ =>
    simp only [Except.bind, Files.readBelow, if_neg hshort]
    by_cases hlong : Files.longestName < Utf8.size name.toList
    · simp only [if_pos hlong]
      rfl
    · simp only [if_neg hlong]
      cases hmoved : new name below with
      | none =>
        -- the file is the same, and its directory is, unless there is none of either
        have hsame : fs'.node? (place ++ [name, below]) = fs.node? (place ++ [name, below]) := by
          rw [hinner, hmoved]
          rfl
        rw [hsame]
        rcases h.outer name with houter | ⟨hnone, hmade⟩
        · rw [houter]
          cases fs.node? (place ++ [name]) with
          | none => rfl
          | some node =>
            cases node with
            | file content => rfl
            | directory =>
              cases fs.node? (place ++ [name, below]) with
              | none => rfl
              | some node => cases node <;> rfl
        · rw [hnone, hmade, hwf.two_below_eq_none hnone below]
          rfl
      | some content =>
        have hfile : fs'.node? (place ++ [name, below]) = some (.file content) := by
          rw [hinner, hmoved]
          rfl
        have houter' : fs'.node? (place ++ [name]) = some .directory :=
          (h.wellFormed.two_below (by rw [hfile]; simp)).2.2
        rw [hfile, houter']
        rcases h.outer name with houter | ⟨hnone, _⟩
        · -- a file was moved there, so there was no directory
          rw [← houter, houter']
          cases hold : fs.node? (place ++ [name, below]) with
          | none => rfl
          | some node =>
            cases node with
            | file content' => rfl
            | directory =>
              have hkept := h.keeps.directories _ (Files.isDirectoryAt_iff.2 hold)
              rw [Files.isDirectoryAt_iff, hfile] at hkept
              cases hkept
        · rw [hnone]
          rfl

/-- Whether a file two names below a place is put or taken away, what is one name below stays. -/
theorem outer_place (fs : Files) (place : Path) (name below outer : String) (node : FileNode) :
    (fs.place (place ++ [name, below]) node).node? (place ++ [outer]) =
      fs.node? (place ++ [outer]) := by
  rw [Files.node?_place, if_neg (by simp), if_neg (by simp)]

theorem outer_erase (fs : Files) (place : Path) (name below outer : String) :
    (fs.erase (place ++ [name, below])).node? (place ++ [outer]) = fs.node? (place ++ [outer]) := by
  rw [Files.node?_erase, if_neg (by simp), if_neg (by simp)]

end Publishes

section
variable {place : Path} {fs fs' : Files} {root : WrittenPath} {name below target : String}
  {content : Bytes}

/-- Making the directory of recordings, or failing to, is not noticed. -/
theorem quiet_makeDirectories (hwf : fs.WellFormed) (hlead : fs.Leads root place)
    (hname : ProperName name) :
    Quiet place fs (fs.makeDirectories (root.child name)).2 ∧
      ∀ outer inner, (fs.makeDirectories (root.child name)).2.node? (place ++ [outer, inner]) =
        fs.node? (place ++ [outer, inner]) := by
  obtain ⟨hwf', hadds⟩ := Files.makeDirectories_spec hwf (root.child name)
  obtain ⟨e, h⟩ | ⟨_, h⟩ | ⟨hnone, h⟩ := Files.makeDirectories_child hlead hname
  · rw [h]
    exact ⟨.refl place hwf, fun _ _ => rfl⟩
  · rw [h]
    exact ⟨.refl place hwf, fun _ _ => rfl⟩
  · rw [h] at hwf' hadds ⊢
    refine ⟨⟨hwf', hadds.keeps, fun outer => ?_, keepsEntries_directory name _⟩,
      fun outer inner => ?_⟩
    · show (fs.place _ _).node? _ = _ ∨ _
      rw [Files.node?_place, if_neg (by simp)]
      split
      · rename_i heq
        rw [← heq]
        exact .inr ⟨hnone, rfl⟩
      · exact .inl rfl
    · show (fs.place _ _).node? _ = _
      rw [Files.node?_place, if_neg (by simp), if_neg (by simp)]

/-- Writing a draft is not noticed. -/
theorem quiet_write (hwf : fs.WellFormed) (hlead : fs.Leads root place) (hname : ProperName name)
    (hbelow : ProperName below) (hdraft : isEntryName below = false)
    (h : fs.write ((root.child name).child below) content = .ok fs') : Quiet place fs fs' := by
  obtain ⟨hwf', hkeeps⟩ := Files.write_wellFormed hwf h
  rw [Files.write_below hlead hname hbelow h] at hwf' hkeeps ⊢
  exact ⟨hwf', hkeeps, fun outer => .inl (Publishes.outer_place fs place name below outer _),
    keepsEntries_place hdraft _⟩

/-- Removing a draft is not noticed. -/
theorem quiet_remove (hwf : fs.WellFormed) (hlead : fs.Leads root place) (hname : ProperName name)
    (hbelow : ProperName below) (hdraft : isEntryName below = false)
    (h : fs.remove ((root.child name).child below) = .ok fs') : Quiet place fs fs' := by
  obtain ⟨hwf', hkeeps⟩ := Files.remove_wellFormed hwf h
  rw [Files.remove_below hlead hname hbelow h] at hwf' hkeeps ⊢
  exact ⟨hwf', hkeeps, fun outer => .inl (Publishes.outer_erase fs place name below outer),
    keepsEntries_erase hdraft⟩

/-- Moving a draft makes what is in it a recording. -/
theorem publishes_rename (hwf : fs.WellFormed) (hlead : fs.Leads root place)
    (hname : ProperName name) (hbelow : ProperName below) (htarget : ProperName target)
    (hdraft : isEntryName below = false)
    (hcontent : fs.node? (place ++ [name, below]) = some (.file content))
    (h : fs.rename ((root.child name).child below) ((root.child name).child target) = .ok fs') :
    Publishes place
      (fun outer inner => if name = outer ∧ target = inner then some content else none) fs fs' := by
  obtain ⟨hwf', hkeeps⟩ := Files.rename_wellFormed hwf h
  obtain ⟨found, hfound, rfl⟩ := Files.rename_below hlead hname hbelow htarget h
  rw [hcontent] at hfound
  cases hfound
  refine ⟨hwf', hkeeps, fun outer => .inl ?_, fun outer inner hinner => ?_⟩
  · rw [Publishes.outer_erase, Publishes.outer_place]
  · rw [node?_moved hdraft hinner]
    split <;> rfl

end

/-! ### Puts and their steps -/

/-- A put into a store below a root: what it records, and the random part of its draft's name. -/
structure Writing where
  root : WrittenPath
  partition : String
  key : EntryKey
  nonce : String
  response : Bytes

namespace Writing

variable (w : Writing)

/-- The content of the recording. -/
def content : Bytes :=
  recording w.key w.response

/-- The name of the directory of the recording. -/
def directoryName : String :=
  partitionDirectory w.partition

/-- The name of the draft there. -/
def draftName : String :=
  Digest.sha256.draftName w.key w.nonce

/-- The name of the recording there. -/
def fileName : String :=
  Digest.sha256.fileName w.key

def directory : WrittenPath :=
  directoryPath w.root w.partition

def draft : WrittenPath :=
  draftPath w.root w.partition w.key w.nonce

def target : WrittenPath :=
  entryPath w.root w.partition w.key

/-- Where the draft is below a place. -/
def draftPlace (place : Path) : Path :=
  place ++ [w.directoryName, w.draftName]

theorem proper_directory : ProperName w.directoryName :=
  Digest.sha256.proper_directory w.partition

theorem proper_draft : ProperName w.draftName :=
  Digest.sha256.proper_draft w.key w.nonce

theorem proper_file : ProperName w.fileName :=
  Digest.sha256.proper_entry w.key

theorem draft_no_entry : isEntryName w.draftName = false :=
  Digest.sha256.isEntryName_draft w.key w.nonce

/-- Drafts with different nonces are different files. -/
theorem draftPlace_ne {w w' : Writing} (place : Path) (h : w.nonce ≠ w'.nonce) :
    w.draftPlace place ≠ w'.draftPlace place := by
  intro heq
  have hnames := List.append_cancel_left heq
  simp only [List.cons.injEq, and_true] at hnames
  exact h (Digest.sha256.draftName_inj hnames.2)

/-- No draft is in the place of a recording. -/
theorem target_ne_draftPlace (w w' : Writing) (place : Path) :
    place ++ [w.directoryName, w.fileName] ≠ w'.draftPlace place := by
  intro heq
  have hnames := List.append_cancel_left heq
  simp only [List.cons.injEq, and_true] at hnames
  have hentry : isEntryName w.fileName = true := Digest.sha256.isEntryName_entry w.key
  rw [hnames.2, w'.draft_no_entry] at hentry
  cases hentry

/-- What a tree has in the place of a draft after a file was put two names below, and after one was
taken away there. -/
theorem node?_place_draftPlace (w : Writing) (fs : Files) (place : Path) (name below : String)
    (node : FileNode) :
    (fs.place (place ++ [name, below]) node).node? (w.draftPlace place) =
      if place ++ [name, below] = w.draftPlace place then some node
      else fs.node? (w.draftPlace place) := by
  rw [Files.node?_place, if_neg (by simp [draftPlace])]

theorem node?_erase_draftPlace (w : Writing) (fs : Files) (place : Path) (name below : String) :
    (fs.erase (place ++ [name, below])).node? (w.draftPlace place) =
      if place ++ [name, below] = w.draftPlace place then none
      else fs.node? (w.draftPlace place) := by
  rw [Files.node?_erase, if_neg (by simp [draftPlace])]

end Writing

/-- How far a put has come. -/
inductive Stage where
  | begun
  /-- The directory is there. -/
  | prepared
  /-- Some bytes are in the draft. -/
  | drafting (count : Nat)
  /-- The draft could not be moved, and is still there. -/
  | unmoved (e : FileError)
  | done
  | failed (e : FileError)
deriving DecidableEq

/-- Puts on the same files: the files, how far each put has come, and which have moved their drafts,
the latest first. -/
structure Scene (n : Nat) where
  files : Files
  stages : Fin n → Stage
  moved : List (Fin n)

/-- A step of one put. -/
inductive Deed (n : Nat) where
  /-- Make the directory. -/
  | prepare (k : Fin n)
  /-- Write some more bytes to the draft. -/
  | write (k : Fin n) (count : Nat)
  /-- Move the whole draft to its place. -/
  | move (k : Fin n)
  /-- Fail to move the whole draft. -/
  | refuse (k : Fin n) (e : FileError)
  /-- Remove a draft that could not be moved. -/
  | tidy (k : Fin n)
  /-- Fail before the draft is moved, or to remove it. -/
  | fail (k : Fin n) (e : FileError)

/-- The put that takes a step. -/
def Deed.actor {n : Nat} : Deed n → Fin n
  | .prepare k => k
  | .write k _ => k
  | .move k => k
  | .refuse k _ => k
  | .tidy k => k
  | .fail k _ => k

/-- How many bytes are in the draft of a put that may write more. -/
def Stage.drafted? : Stage → Option Nat
  | .prepared => some 0
  | .drafting count => some count
  | _ => none

namespace Scene

variable {n : Nat}

/-- No put has done anything. -/
def fresh (files : Files) : Scene n :=
  ⟨files, fun _ => .begun, []⟩

/-- One put has come to a stage, with other files. -/
def set (s : Scene n) (k : Fin n) (stage : Stage) (files : Files) : Scene n :=
  { s with files, stages := Function.update s.stages k stage }

/-- One put has moved its draft to its place. -/
def finish (s : Scene n) (k : Fin n) (files : Files) : Scene n :=
  ⟨files, Function.update s.stages k .done, k :: s.moved⟩

@[simp] theorem set_stages_self (s : Scene n) (k : Fin n) (stage : Stage) (files : Files) :
    (s.set k stage files).stages k = stage :=
  Function.update_self ..

theorem set_stages_of_ne (s : Scene n) {j k : Fin n} (h : j ≠ k) (stage : Stage) (files : Files) :
    (s.set k stage files).stages j = s.stages j :=
  Function.update_of_ne h ..

@[simp] theorem finish_stages_self (s : Scene n) (k : Fin n) (files : Files) :
    (s.finish k files).stages k = .done :=
  Function.update_self ..

theorem finish_stages_of_ne (s : Scene n) {j k : Fin n} (h : j ≠ k) (files : Files) :
    (s.finish k files).stages j = s.stages j :=
  Function.update_of_ne h ..

/-- Take a step. Whatever is not the turn of a put changes nothing. -/
def step (ws : Fin n → Writing) (s : Scene n) : Deed n → Scene n
  | .prepare k =>
    match s.stages k with
    | .begun =>
      match s.files.makeDirectories (ws k).directory with
      | (.ok _, made) => s.set k .prepared made
      | (.error e, made) => s.set k (.failed e) made
    | _ => s
  | .write k count =>
    match (s.stages k).drafted? with
    | some before =>
      match s.files.write (ws k).draft ((ws k).content.take (before + count)) with
      | .ok files => s.set k (.drafting (before + count)) files
      | .error e => s.set k (.failed e) s.files
    | none => s
  | .move k =>
    match s.stages k with
    | .drafting count =>
      if count < (ws k).content.length then s
      else
        match s.files.rename (ws k).draft (ws k).target with
        | .ok files => s.finish k files
        | .error e => s.set k (.unmoved e) s.files
    | _ => s
  | .refuse k e =>
    match s.stages k with
    | .drafting count =>
      if count < (ws k).content.length then s else s.set k (.unmoved e) s.files
    | _ => s
  | .tidy k =>
    match s.stages k with
    | .unmoved e =>
      match s.files.remove (ws k).draft with
      | .ok files => s.set k (.failed e) files
      | .error _ => s.set k (.failed e) s.files
    | _ => s
  | .fail k e =>
    match s.stages k with
    | .begun => s.set k (.failed e) s.files
    | .prepared => s.set k (.failed e) s.files
    | .drafting _ => s.set k (.failed e) s.files
    | .unmoved e' => s.set k (.failed e') s.files
    | _ => s

/-- Take steps, one after the other. -/
def run (ws : Fin n → Writing) (s : Scene n) : List (Deed n) → Scene n
  | [] => s
  | a :: rest => (s.step ws a).run ws rest

/-- The stage of a put that has returned. -/
def returned : Except FileError Unit → Stage
  | .ok _ => .done
  | .error e => .failed e

/-- The steps of one put, nothing coming between, are the put of a store. -/
theorem step_alone (ws : Fin n → Writing) (s : Scene n) (k : Fin n) (hbegun : s.stages k = .begun) :
    let t := s.run ws [.prepare k, .write k (ws k).content.length, .move k, .tidy k]
    let written := writeEntry s.files (ws k).root (ws k).partition (ws k).key (ws k).nonce
      (ws k).response
    t.files = written.2 ∧ t.stages k = returned written.1 := by
  have hdraft : (ws k).draft = draftPath (ws k).root (ws k).partition (ws k).key (ws k).nonce := rfl
  have htarget : (ws k).target = entryPath (ws k).root (ws k).partition (ws k).key := rfl
  have hcontent : (ws k).content = recording (ws k).key (ws k).response := rfl
  have hdirectory : (ws k).directory = directoryPath (ws k).root (ws k).partition := rfl
  unfold writeEntry
  rw [← hdraft, ← htarget, ← hcontent, ← hdirectory]
  -- the cases are the steps that may fail, after which the put takes no other step
  cases hmake : s.files.makeDirectories (ws k).directory with
  | mk result made =>
    cases result with
    | error e => simp [run, step, set, hbegun, hmake, Stage.drafted?, returned]
    | ok _ =>
      cases hwrite : made.write (ws k).draft (ws k).content with
      | error e => simp [run, step, set, hbegun, hmake, hwrite, Stage.drafted?, returned]
      | ok written =>
        cases hmove : written.rename (ws k).draft (ws k).target with
        | ok moved =>
          simp [run, step, set, finish, hbegun, hmake, hwrite, hmove, Stage.drafted?, returned]
        | error e =>
          cases hremove : written.remove (ws k).draft <;>
            simp [run, step, set, hbegun, hmake, hwrite, hmove, hremove, Stage.drafted?, returned]

end Scene

/-! ### What a step does -/

section
variable {n : Nat} {ws : Fin n → Writing} {place : Path} {fs : Files} {s : Scene n}

/-- What a step of a put may do: nothing, or something that is not noticed, or moving the whole
draft to its place. The drafts of other puts stay. -/
inductive Change (ws : Fin n → Writing) (place : Path) (s : Scene n) (k : Fin n) : Scene n → Prop
  | idle : Change ws place s k s
  | quiet (stage : Stage) (files : Files) (before : s.stages k ≠ .done) (after : stage ≠ .done)
      (unnoticed : Quiet place s.files files)
      (others : ∀ j, j ≠ k →
        files.node? ((ws j).draftPlace place) = s.files.node? ((ws j).draftPlace place))
      (own : ∀ count, stage = .drafting count →
        files.node? ((ws k).draftPlace place) = some (.file ((ws k).content.take count))) :
      Change ws place s k (s.set k stage files)
  | move (files : Files) (before : s.stages k ≠ .done)
      (published : Publishes place
        (fun name below => if (ws k).directoryName = name ∧ (ws k).fileName = below then
          some (ws k).content else none) s.files files)
      (others : ∀ j, j ≠ k →
        files.node? ((ws j).draftPlace place) = s.files.node? ((ws j).draftPlace place)) :
      Change ws place s k (s.finish k files)

/-- The content that was moved last to the place of a recording. -/
def contents (ws : Fin n → Writing) (moved : List (Fin n)) (name below : String) : Option Bytes :=
  (moved.find? fun k => (ws k).directoryName == name && (ws k).fileName == below).map
    fun k => (ws k).content

theorem contents_cons (ws : Fin n → Writing) (k : Fin n) (moved : List (Fin n))
    (name below : String) : contents ws (k :: moved) name below =
      (if (ws k).directoryName = name ∧ (ws k).fileName = below then some (ws k).content
        else none).or (contents ws moved name below) := by
  unfold contents
  split
  · rename_i hat
    rw [List.find?_cons_of_pos (by simp [hat])]
    rfl
  · rename_i hat
    rw [List.find?_cons_of_neg (by simpa using hat)]
    rfl

namespace Scene

/-- The files are those from before the puts, with the recordings that were moved to their places.
The drafts of puts on the way hold what was written to them. -/
structure Sound (ws : Fin n → Writing) (place : Path) (fs : Files) (s : Scene n) : Prop where
  files : Publishes place (contents ws s.moved) fs s.files
  drafts : ∀ k count, s.stages k = .drafting count →
    s.files.node? ((ws k).draftPlace place) = some (.file ((ws k).content.take count))
  moved : ∀ k, k ∈ s.moved ↔ s.stages k = .done

theorem sound_fresh (hwf : fs.WellFormed) : (fresh fs : Scene n).Sound ws place fs where
  files := .refl place hwf
  drafts k count h := by cases h
  moved k := ⟨fun h => absurd h List.not_mem_nil, fun h => by cases h⟩

namespace Sound

variable (h : s.Sound ws place fs)
include h

/-- A put that stops, or goes on without touching the files, changes only its stage. -/
theorem halt {k : Fin n} {stage : Stage} (hbefore : s.stages k ≠ .done) (hafter : stage ≠ .done)
    (hdraft : stage.drafted? = none) : Change ws place s k (s.set k stage s.files) := by
  refine .quiet stage s.files hbefore hafter (.refl place h.files.wellFormed) (fun _ _ => rfl) ?_
  rintro count rfl
  cases hdraft

variable (hlead : ∀ k, fs.Leads (ws k).root place)
include hlead

theorem leads (k : Fin n) : s.files.Leads (ws k).root place :=
  (hlead k).keeps h.files.keeps

theorem prepare (k : Fin n) : Change ws place s k (s.step ws (.prepare k)) := by
  simp only [step]
  split
  · rename_i hstage
    have hbefore : s.stages k ≠ .done := by simp [hstage]
    obtain ⟨hquiet, hsame⟩ := quiet_makeDirectories h.files.wellFormed (h.leads hlead k)
      (ws k).proper_directory
    have hdirectory : (ws k).directory = (ws k).root.child (ws k).directoryName := rfl
    rw [hdirectory]
    split
    · rename_i heq
      rw [heq] at hquiet hsame
      exact .quiet _ _ hbefore (by simp) hquiet (fun j _ => hsame _ _) (by simp)
    · rename_i heq
      rw [heq] at hquiet hsame
      exact .quiet _ _ hbefore (by simp) hquiet (fun j _ => hsame _ _) (by simp)
  · exact .idle

variable (hnonces : Function.Injective fun k => (ws k).nonce)
include hnonces

theorem write (k : Fin n) (count : Nat) : Change ws place s k (s.step ws (.write k count)) := by
  simp only [step]
  cases hdrafted : (s.stages k).drafted? with
  | none => exact .idle
  | some before =>
    have hbefore : s.stages k ≠ .done := by
      intro heq
      rw [heq] at hdrafted
      cases hdrafted
    simp only
    split
    · rename_i files hwrite
      have hquiet := quiet_write h.files.wellFormed (h.leads hlead k) (ws k).proper_directory
        (ws k).proper_draft (ws k).draft_no_entry hwrite
      have hplaced := Files.write_below (h.leads hlead k) (ws k).proper_directory
        (ws k).proper_draft hwrite
      refine .quiet _ _ hbefore (by simp) hquiet (fun j hj => ?_) fun count' heq => ?_
      · rw [hplaced, Writing.node?_place_draftPlace]
        exact if_neg (Writing.draftPlace_ne place fun heq => hj (hnonces heq).symm)
      · cases heq
        rw [hplaced, Writing.node?_place_draftPlace]
        exact if_pos rfl
    · exact h.halt hbefore (by simp) rfl

theorem move (k : Fin n) : Change ws place s k (s.step ws (.move k)) := by
  simp only [step]
  split
  · rename_i count hstage
    have hbefore : s.stages k ≠ .done := by simp [hstage]
    split
    · exact .idle
    · rename_i hwhole
      split
      · rename_i files hmove
        -- what is in the draft is the whole content, which moving makes a recording
        have hcontent := h.drafts k count hstage
        rw [List.take_of_length_le (Nat.not_lt.1 hwhole)] at hcontent
        have hpublished := publishes_rename h.files.wellFormed (h.leads hlead k)
          (ws k).proper_directory (ws k).proper_draft (ws k).proper_file (ws k).draft_no_entry
          hcontent hmove
        obtain ⟨_, _, hmoved⟩ := Files.rename_below (h.leads hlead k) (ws k).proper_directory
          (ws k).proper_draft (ws k).proper_file hmove
        refine .move files hbefore hpublished fun j hj => ?_
        rw [hmoved, Writing.node?_erase_draftPlace]
        refine (if_neg (Writing.draftPlace_ne place fun heq => hj (hnonces heq).symm)).trans ?_
        rw [Writing.node?_place_draftPlace]
        exact if_neg (Writing.target_ne_draftPlace (ws k) (ws j) place)
      · exact h.halt hbefore (by simp) rfl
  · exact .idle

theorem tidy (k : Fin n) : Change ws place s k (s.step ws (.tidy k)) := by
  simp only [step]
  split
  · rename_i e hstage
    have hbefore : s.stages k ≠ .done := by simp [hstage]
    split
    · rename_i files hremove
      have hquiet := quiet_remove h.files.wellFormed (h.leads hlead k) (ws k).proper_directory
        (ws k).proper_draft (ws k).draft_no_entry hremove
      refine .quiet _ _ hbefore (by simp) hquiet (fun j hj => ?_) (by simp)
      rw [Files.remove_below (h.leads hlead k) (ws k).proper_directory (ws k).proper_draft hremove,
        Writing.node?_erase_draftPlace]
      exact if_neg (Writing.draftPlace_ne place fun heq => hj (hnonces heq).symm)
    · exact h.halt hbefore (by simp) rfl
  · exact .idle

/-- Every step is one of the changes that a put may make. -/
theorem step_change (a : Deed n) : Change ws place s a.actor (s.step ws a) := by
  cases a with
  | prepare k => exact h.prepare hlead k
  | write k count => exact h.write hlead hnonces k count
  | move k => exact h.move hlead hnonces k
  | refuse k e =>
    simp only [step]
    split
    · rename_i hstage
      have hbefore : s.stages k ≠ .done := by simp [hstage]
      split
      · exact .idle
      · exact h.halt hbefore (by simp) rfl
    · exact .idle
  | tidy k => exact h.tidy hlead hnonces k
  | fail k e =>
    simp only [step]
    split
    case h_5 => exact .idle
    all_goals
      rename_i hstage
      have hbefore : s.stages k ≠ .done := by simp [hstage]
      exact h.halt hbefore (by simp) rfl

end Sound

end Scene

namespace Change

variable {k : Fin n} {s' : Scene n}

/-- What a change leaves is sound. -/
theorem sound (h : Change ws place s k s') (hs : s.Sound ws place fs) : s'.Sound ws place fs := by
  cases h with
  | idle => exact hs
  | quiet stage files before after unnoticed others own =>
    refine ⟨hs.files.trans unnoticed, fun j count hj => ?_, fun j => ?_⟩
    · by_cases heq : j = k
      · subst heq
        rw [Scene.set_stages_self] at hj
        exact own count hj
      · rw [Scene.set_stages_of_ne s heq] at hj
        exact (others j heq).trans (hs.drafts j count hj)
    · show j ∈ s.moved ↔ _
      rw [hs.moved]
      by_cases heq : j = k
      · subst heq
        rw [Scene.set_stages_self]
        exact ⟨fun hdone => absurd hdone before, fun hdone => absurd hdone after⟩
      · rw [Scene.set_stages_of_ne s heq]
  | move files before published others =>
    refine ⟨?_, fun j count hj => ?_, fun j => ?_⟩
    · show Publishes place (contents ws (k :: s.moved)) fs files
      rw [show contents ws (k :: s.moved) = _ from
        funext fun name => funext fun below => contents_cons ws k s.moved name below]
      exact hs.files.trans published
    · by_cases heq : j = k
      · subst heq
        rw [Scene.finish_stages_self] at hj
        cases hj
      · rw [Scene.finish_stages_of_ne s heq] at hj
        exact (others j heq).trans (hs.drafts j count hj)
    · show j ∈ k :: s.moved ↔ _
      rw [List.mem_cons, hs.moved]
      by_cases heq : j = k
      · subst heq
        simp
      · rw [Scene.finish_stages_of_ne s heq]
        simp [heq]

/-- A step after which its put has not moved its draft is not noticed. -/
theorem quiet_of_ne_done (h : Change ws place s k s') (hs : s.Sound ws place fs)
    (hdone : s'.stages k ≠ .done) : Quiet place s.files s'.files := by
  cases h with
  | idle => exact .refl place hs.files.wellFormed
  | quiet stage files before after unnoticed others own => exact unnoticed
  | move files before published others => exact absurd (s.finish_stages_self k files) hdone

/-- A put that is done stays so. -/
theorem done_stays (h : Change ws place s k s') {j : Fin n} (hj : s.stages j = .done) :
    s'.stages j = .done := by
  cases h with
  | idle => exact hj
  | quiet stage files before after unnoticed others own =>
    have hne : j ≠ k := fun heq => before (heq ▸ hj)
    exact (s.set_stages_of_ne hne stage files).trans hj
  | move files before published others =>
    have hne : j ≠ k := fun heq => before (heq ▸ hj)
    exact (s.finish_stages_of_ne hne files).trans hj

end Change

namespace Scene

theorem run_append (ws : Fin n → Writing) (s : Scene n) (deeds more : List (Deed n)) :
    s.run ws (deeds ++ more) = (s.run ws deeds).run ws more := by
  induction deeds generalizing s with
  | nil => rfl
  | cons a rest ih => exact ih (s.step ws a)

variable (hlead : ∀ k, fs.Leads (ws k).root place)
  (hnonces : Function.Injective fun k => (ws k).nonce)
include hlead hnonces

theorem sound_run (h : s.Sound ws place fs) (deeds : List (Deed n)) :
    (s.run ws deeds).Sound ws place fs := by
  induction deeds generalizing s with
  | nil => exact h
  | cons a rest ih => exact ih ((h.step_change hlead hnonces a).sound h)

theorem done_run (h : s.Sound ws place fs) {k : Fin n} (hk : s.stages k = .done)
    (deeds : List (Deed n)) : (s.run ws deeds).stages k = .done := by
  induction deeds generalizing s with
  | nil => exact hk
  | cons a rest ih =>
    have hchange := h.step_change hlead hnonces a
    exact ih (hchange.sound h) (hchange.done_stays hk)

end Scene

end

/-! ### What stores answer -/

section
variable {place : Path} {new : String → String → Option Bytes} {fs fs' : Files} {r : Replay}

/-- A store finds what was moved to the place of the recording last, or else what it found
before. -/
theorem Publishes.get (h : Publishes place new fs fs') (hwf : fs.WellFormed)
    (hlead : fs.Leads r.root place) {id : SessionId} {partition : String}
    (hpartition : r.registry.partitionOf id = .ok partition) (url : Url) (request : Bytes) :
    r.get fs' id url request = (r.get fs id url request).map fun before =>
      match new (partitionDirectory partition) (Digest.sha256.fileName (.of url request)) with
      | some content => recorded? (.of url request) content
      | none => before := by
  have hread : readEntry fs' r.root partition (.of url request) =
      (readEntry fs r.root partition (.of url request)).map _ :=
    h.readAt hwf hlead (Digest.sha256.proper_directory partition)
      (Digest.sha256.proper_entry (.of url request)) (Digest.sha256.entry_not_long _)
      (Digest.sha256.isEntryName_entry _) (.of url request)
  unfold Replay.get
  rw [hpartition]
  split
  · rfl
  · simp only [hread]
    cases readEntry fs r.root partition (.of url request) with
    | error e => rfl
    | ok before => rfl

/-- What is not noticed changes no answer. -/
theorem Publishes.get_eq (h : Quiet place fs fs') (hwf : fs.WellFormed)
    (hlead : fs.Leads r.root place) (id : SessionId) (url : Url) (request : Bytes) :
    r.get fs' id url request = r.get fs id url request := by
  cases hpartition : r.registry.partitionOf id with
  | error e =>
    unfold Replay.get
    rw [hpartition]
  | ok partition =>
    rw [h.get hwf hlead hpartition url request]
    cases r.get fs id url request with
    | error e => rfl
    | ok found => rfl

end

/-- The put that moved its draft last, of those of a partition and a key. -/
def Scene.latest? {n : Nat} (ws : Fin n → Writing) (s : Scene n) (partition : String)
    (key : EntryKey) : Option (Fin n) :=
  s.moved.find? fun k => (ws k).partition == partition && (ws k).key == key

namespace Scene

variable {n : Nat} {ws : Fin n → Writing} {s : Scene n} {partition : String} {key : EntryKey}

theorem key_of_latest? {k : Fin n} (h : s.latest? ws partition key = some k) :
    (ws k).key = key := by
  have hlatest := List.find?_some h
  simp only [Bool.and_eq_true, beq_iff_eq] at hlatest
  exact hlatest.2

/-- Where no other key has the file, what was moved there last is by the latest put of the key. -/
theorem contents_eq_latest? {root : WrittenPath}
    (hdistinct : ∀ k, entryPath root (ws k).partition (ws k).key = entryPath root partition key →
      (ws k).partition = partition ∧ (ws k).key = key) :
    contents ws s.moved (partitionDirectory partition) (Digest.sha256.fileName key) =
      (s.latest? ws partition key).map fun k => (ws k).content := by
  unfold contents latest?
  refine congrArg _ (List.find?_congr fun k _ => ?_)
  rw [Bool.eq_iff_iff, Bool.and_eq_true, Bool.and_eq_true, beq_iff_eq, beq_iff_eq, beq_iff_eq,
    beq_iff_eq]
  constructor
  · rintro ⟨hdirectory, hfile⟩
    apply hdistinct k
    show (root.child (ws k).directoryName).child (ws k).fileName =
      (root.child (partitionDirectory partition)).child (Digest.sha256.fileName key)
    rw [hdirectory, hfile]
  · rintro ⟨rfl, hkey⟩
    exact ⟨rfl, congrArg Digest.sha256.fileName hkey⟩

end Scene

/-- **A recording appears at once.** Let any puts into one directory, whose drafts have different
names, take their steps in any order, fail anywhere, or stop. A look-up whose file is that of no
other key then answers what it did before all of them, or the whole response of the put of its key
that moved its draft last. A put that has not moved its draft, be it that it failed or stopped, has
changed no answer of any store and no number of recordings with any of its steps. -/
theorem put_atomic {n : Nat} (ws : Fin n → Writing) {fs : Files} {place : Path}
    (hwf : fs.WellFormed) (hlead : ∀ k, fs.Leads (ws k).root place)
    (hnonces : Function.Injective fun k => (ws k).nonce) (hkeys : ∀ k, (ws k).key.Writable)
    (deeds : List (Deed n)) :
    let s := (Scene.fresh fs).run ws deeds
    (∀ r : Replay, fs.Leads r.root place →
      ∀ id partition url request, r.registry.partitionOf id = .ok partition →
      (∀ k, entryPath r.root (ws k).partition (ws k).key =
          entryPath r.root partition (.of url request) →
        (ws k).partition = partition ∧ (ws k).key = .of url request) →
      r.get s.files id url request = (r.get fs id url request).map fun before =>
        ((s.latest? ws partition (.of url request)).map fun k => (ws k).response).or before) ∧
    (∀ k, k ∈ s.moved ↔ s.stages k = .done) ∧
    ∀ earlier a later, deeds = earlier ++ a :: later → s.stages a.actor ≠ .done →
      let before := (Scene.fresh fs).run ws earlier
      ∀ r : Replay, fs.Leads r.root place →
        (∀ id url request, r.get (before.step ws a).files id url request =
          r.get before.files id url request) ∧
        r.recorded (before.step ws a).files = r.recorded before.files := by
  intro s
  have hstart : (Scene.fresh fs).Sound ws place fs := Scene.sound_fresh hwf
  have h : s.Sound ws place fs := Scene.sound_run hlead hnonces hstart deeds
  refine ⟨fun r hr id partition url request hpartition hdistinct => ?_, h.moved, ?_⟩
  · -- among the puts that moved their drafts, those to the file are those of the key
    rw [h.files.get hwf hr hpartition, Scene.contents_eq_latest? hdistinct]
    refine congrArg (fun f => Except.map f _) (funext fun before => ?_)
    cases hlatest : s.latest? ws partition (.of url request) with
    | none => rfl
    | some k =>
      have hkey := Scene.key_of_latest? hlatest
      show recorded? (.of url request) (recording (ws k).key (ws k).response) = _
      rw [hkey, recorded?_recording_self (hkey ▸ hkeys k)]
      rfl
  · rintro earlier a later rfl hdone before r hr
    have hbefore : before.Sound ws place fs := Scene.sound_run hlead hnonces hstart earlier
    have hchange := hbefore.step_change hlead hnonces a
    have hafter := hchange.sound hbefore
    -- had the step moved the draft, the put would still be done in the end
    have hquiet : Quiet place before.files (before.step ws a).files := by
      refine hchange.quiet_of_ne_done hbefore fun hmoved => hdone ?_
      show ((Scene.fresh fs).run ws (earlier ++ a :: later)).stages a.actor = .done
      rw [Scene.run_append]
      exact Scene.done_run hlead hnonces hafter hmoved later
    have hlead' := hr.keeps hbefore.files.keeps
    exact ⟨hquiet.get_eq hbefore.files.wellFormed hlead',
      recorded_congr hbefore.files.wellFormed hafter.files.wellFormed hlead'
        (hr.keeps hafter.files.keeps) hquiet.keepsEntries⟩

/-- Of two puts under way for one request, the second moves its draft, and the first writes on and
then fails: the response of the second is found. -/
theorem put_atomic_one_fails :
    let url : Url := ⟨"http", none, .segments [[]], none, none⟩
    let ws : Fin 2 → Writing := fun k => ⟨.ofString "/", "shared:default", .of url [1],
      if k = 0 then "x" else "y", if k = 0 then [10] else [20]⟩
    let deeds : List (Deed 2) :=
      [.prepare 0, .write 0 5, .prepare 1, .write 1 100, .move 1, .write 0 100, .fail 0 .notFound]
    let r := (Replay.configure ⟨.ofString "/", .empty Replay.sharing⟩ "a" ∅ ∅).2
    ((Scene.fresh .empty).run ws deeds).stages 0 ≠ .done ∧
      r.get ((Scene.fresh .empty).run ws deeds).files ⟨"s1-a"⟩ url [1] = .ok (some [20]) := by
  intro url ws deeds r
  have hmoved : ((Scene.fresh .empty).run ws deeds).moved = [1] := by
    decide +kernel
  have hbefore : r.get .empty ⟨"s1-a"⟩ url [1] = .ok none := by
    decide +kernel
  have hpartition : r.registry.partitionOf ⟨"s1-a"⟩ = .ok "shared:default" := by
    decide +kernel
  have hlead : Files.empty.Leads (.ofString "/") [] := ⟨by decide +kernel, rfl⟩
  have hkey : (EntryKey.of url [1]).Writable := by
    refine ⟨?_, by simp [EntryKey.of, Writable]⟩
    show (Utf8.encodeString url.text).length < _
    decide +kernel
  have hnonces : Function.Injective fun k => (ws k).nonce := by
    intro j k
    revert j k
    decide
  obtain ⟨hget, hdone, _⟩ := put_atomic ws Files.wellFormed_empty (fun _ => hlead) hnonces
    (fun _ => hkey) deeds
  constructor
  · rw [Ne, ← hdone 0, hmoved]
    decide
  · rw [hget r hlead ⟨"s1-a"⟩ "shared:default" url [1] hpartition fun _ _ => ⟨rfl, rfl⟩, hbefore,
      Scene.latest?, hmoved]
    decide +kernel

end OlapClient.Cache
