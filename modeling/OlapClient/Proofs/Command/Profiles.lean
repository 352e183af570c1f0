import OlapClient.Command.Run
import OlapClient.Proofs.Profile.File

namespace OlapClient

/-!
# Commands keep the file of profiles

Commands that are run one after another, each with options of its own, change one file of profiles.
The file always holds what the commands that succeeded spell.

* `ProfileCommand.Refused` — why a command fails before it writes the file.
* `ProfileCommand.after`, `ProfileCommand.apply` — what a command that succeeds does to a set and to
  its profiles.
* `DefaultMoves` — the ways in which a command changes the default.
* `CommandContext.runProfiles_cases` — the ways in which a command ends.
* `ProfileRun`, `ProfileRun.exists_set` — commands after each other, and the set that the file holds.
* `ProfileRun.keeps_profiles` — the file is a faithful map of the profiles after every command.
-/

/-! ### What a command does -/

namespace ProfileCommand

/-- A command cannot be carried out on a set. -/
def Refused (set : ProfileSet) : ProfileCommand → Prop
  | .save name text _ => trim name = "" ∨ ∃ e, ConnectString.parse text = .error e
  | .remove name => set.find? name = none
  | .display name => ∃ e, set.resolve name = .error e
  | .list | .path => False

/-- The set after a command that is not refused. -/
def after (set : ProfileSet) : ProfileCommand → ProfileSet
  | .save name text asDefault =>
    match ConnectString.parse text with
    | .ok properties => CommandContext.withProfile set name properties asDefault
    | .error _ => set
  | .remove name => (set.remove name).2
  | .display _ | .list | .path => set

/-- The profiles after a command that succeeds: saving puts the properties of a connect string under
a name, and removing takes the name away. -/
def apply (profiles : NameMap PropertyMap) : ProfileCommand → NameMap PropertyMap
  | .save name text _ =>
    match ConnectString.parse text with
    | .ok properties => profiles.insert name properties
    | .error _ => profiles
  | .remove name => profiles.erase name
  | .display _ | .list | .path => profiles

end ProfileCommand

/-- The ways in which a command changes the default: a profile that is saved becomes it if the
command says so, or if there is none, and it goes with the profile that it names. -/
inductive DefaultMoves : ProfileCommand → Option String → Option String → Prop where
  | told (name text : String) (before : Option String) :
    DefaultMoves (.save name text true) before (some name)
  | missing (name text : String) (asDefault : Bool) :
    DefaultMoves (.save name text asDefault) none (some name)
  | removed (name : String) : DefaultMoves (.remove name) (some name) none

/-- A default is the name of a profile. -/
def ProfileSet.NamesDefault (set : ProfileSet) : Prop :=
  ∀ name, set.default = some name → ∃ properties, set.find? name = some properties

section After

variable {set : ProfileSet} {c : ProfileCommand} {name text : String} {asDefault : Bool}

theorem CommandContext.profiles_withProfile (set : ProfileSet) (name : String)
    (properties : PropertyMap) (asDefault : Bool) :
    (withProfile set name properties asDefault).profiles = set.profiles.insert name properties := by
  unfold withProfile
  dsimp only
  split <;> rfl

theorem CommandContext.default_withProfile (set : ProfileSet) (name : String)
    (properties : PropertyMap) (asDefault : Bool) :
    (withProfile set name properties asDefault).default =
      if asDefault ∨ set.default = none then some name else set.default := by
  unfold withProfile
  dsimp only [ProfileSet.set]
  split <;> rfl

namespace ProfileCommand

/-- A connect string that is saved has properties. -/
theorem after_save (h : ¬ (save name text asDefault).Refused set) :
    ∃ properties, ConnectString.parse text = .ok properties ∧
      (save name text asDefault).after set =
        CommandContext.withProfile set name properties asDefault := by
  cases hparse : ConnectString.parse text with
  | error e => exact absurd (.inr ⟨e, hparse⟩) h
  | ok properties => exact ⟨properties, rfl, by rw [after, hparse]⟩

/-- A profile that is removed was there. -/
theorem after_remove (h : ¬ (remove name).Refused set) :
    ∃ properties, set.find? name = some properties ∧
      set.remove name = (some properties, (remove name).after set) ∧
      (remove name).after set =
        ⟨if set.default = some name then none else set.default, set.profiles.erase name⟩ := by
  obtain ⟨properties, hfind⟩ := Option.ne_none_iff_exists'.1 h
  have hremove : set.remove name = (some properties,
      ⟨if set.default = some name then none else set.default, set.profiles.erase name⟩) := by
    rw [ProfileSet.remove, hfind]
  exact ⟨properties, hfind, by rw [after, hremove], by rw [after, hremove]⟩

theorem profiles_after (h : ¬ c.Refused set) : (c.after set).profiles = c.apply set.profiles := by
  cases c with
  | save name text asDefault =>
    obtain ⟨properties, hparse, hafter⟩ := after_save h
    rw [hafter, CommandContext.profiles_withProfile, apply, hparse]
  | remove name =>
    obtain ⟨-, -, -, hafter⟩ := after_remove h
    rw [hafter]
    rfl
  | display name => rfl
  | list => rfl
  | path => rfl

/-- A set whose default names a profile goes on to have one that does. -/
theorem namesDefault_after (h : ¬ c.Refused set) (hset : set.NamesDefault) :
    (c.after set).NamesDefault := by
  cases c with
  | save name text asDefault =>
    obtain ⟨properties, -, hafter⟩ := after_save h
    rw [hafter]
    intro default hdefault
    rw [ProfileSet.find?, CommandContext.profiles_withProfile, NameMap.find?_insert]
    rw [CommandContext.default_withProfile] at hdefault
    split at hdefault
    · cases hdefault
      exact ⟨properties, if_pos rfl⟩
    · split
      · exact ⟨properties, rfl⟩
      · exact hset default hdefault
  | remove name =>
    obtain ⟨-, -, -, hafter⟩ := after_remove h
    rw [hafter]
    intro default hdefault
    dsimp only at hdefault
    split at hdefault
    · cases hdefault
    · rename_i hother
      have hne : name ≠ default := by
        rintro rfl
        exact hother hdefault
      obtain ⟨properties, hfind⟩ := hset default hdefault
      refine ⟨properties, ?_⟩
      rw [ProfileSet.find?, NameMap.find?_erase_of_ne _ hne]
      exact hfind
  | display name => exact hset
  | list => exact hset
  | path => exact hset

theorem defaultMoves_after (h : ¬ c.Refused set) (hne : (c.after set).default ≠ set.default) :
    DefaultMoves c set.default (c.after set).default := by
  cases c with
  | save name text asDefault =>
    obtain ⟨properties, -, hafter⟩ := after_save h
    rw [hafter, CommandContext.default_withProfile] at hne ⊢
    split at hne
    · rename_i hcause
      rw [if_pos hcause]
      rcases hcause with htold | hmissing
      · rw [htold]
        exact .told name text _
      · rw [hmissing]
        exact .missing name text asDefault
    · exact absurd rfl hne
  | remove name =>
    obtain ⟨-, -, -, hafter⟩ := after_remove h
    rw [hafter] at hne ⊢
    dsimp only at hne ⊢
    split at hne
    · rename_i hnamed
      rw [if_pos hnamed, hnamed]
      exact .removed name
    · exact absurd rfl hne
  | display name => exact absurd rfl hne
  | list => exact absurd rfl hne
  | path => exact absurd rfl hne

/-- There is a default once a profile was saved. -/
theorem default_after_save (h : ¬ (save name text asDefault).Refused set) :
    ((save name text asDefault).after set).default ≠ none := by
  obtain ⟨properties, -, hafter⟩ := after_save h
  rw [hafter, CommandContext.default_withProfile]
  split
  · simp
  · rename_i hkept
    exact fun hnone => hkept (.inr hnone)

end ProfileCommand

end After

/-! ### Single commands -/

/-- A command fails since the file cannot be written. -/
def FailsToStore (result : Except Failure String) : Prop :=
  ∃ place reason, result = .error (.ofProfile (.unwritable place reason))

namespace CommandContext

variable {s : CommandContext} {m m' : Machine} {set : ProfileSet} {path : String}
  {c : ProfileCommand} {result : Except Failure String}

theorem store_spec {report : String} (h : s.store m path set report = (result, m'))
    (hstore : ¬ FailsToStore result) :
    (∃ output, result = .ok output) ∧ ProfileSet.loadUser m' (some path) = .ok set := by
  unfold store at h
  split at h
  · rename_i e m' hsave
    cases h
    obtain ⟨place, reason, rfl⟩ := ProfileSet.unwritable_of_save (congrArg Prod.fst hsave)
    exact absurd ⟨place, reason, rfl⟩ hstore
  · rename_i hsave
    cases h
    exact ⟨⟨_, rfl⟩, ProfileSet.loadUser_of_save hsave⟩

theorem profiles_of_loadUser (hpath : s.profilePath = some path)
    (hload : ProfileSet.loadUser m (some path) = .ok set) : s.profiles m = .ok set := by
  rw [profiles, hpath, hload]
  rfl

theorem requirePath_eq (hpath : s.profilePath = some path) : s.requirePath = .ok path := by
  rw [requirePath, hpath]

theorem saveProfile_refused {name text : String} (asDefault : Bool)
    (h : trim name = "" ∨ ∃ e, ConnectString.parse text = .error e) :
    ∃ f, s.saveProfile m name text asDefault = (.error f, m) := by
  unfold saveProfile
  by_cases hname : trim name = ""
  · simp only [if_pos hname]
    exact ⟨_, rfl⟩
  · obtain ⟨e, hparse⟩ := h.resolve_left hname
    simp only [if_neg hname, parse, hparse]
    exact ⟨_, rfl⟩

theorem saveProfile_accepted (hpath : s.profilePath = some path) (hprofiles : s.profiles m = .ok set)
    {name text : String} {asDefault : Bool}
    (h : ¬ (ProfileCommand.save name text asDefault).Refused set) :
    s.saveProfile m name text asDefault =
      s.store m path ((ProfileCommand.save name text asDefault).after set)
        ("✓ Saved profile " ++ name) := by
  obtain ⟨properties, hparse, hafter⟩ := ProfileCommand.after_save h
  have hname : trim name ≠ "" := fun hname => h (.inl hname)
  rw [hafter]
  simp only [saveProfile, if_neg hname, parse, hparse, requirePath_eq hpath, hprofiles]
  rfl

theorem removeProfile_refused (hpath : s.profilePath = some path) (hprofiles : s.profiles m = .ok set)
    {name : String} (h : set.find? name = none) :
    ∃ f, s.removeProfile m name = (.error f, m) := by
  have hremove : set.remove name = (none, set) := by
    rw [ProfileSet.remove, h]
  simp only [removeProfile, requirePath_eq hpath, hprofiles]
  exact ⟨.say ("profile not found: " ++ name), by simp only [bind, Except.bind, hremove]; rfl⟩

theorem removeProfile_accepted (hpath : s.profilePath = some path)
    (hprofiles : s.profiles m = .ok set) {name : String}
    (h : ¬ (ProfileCommand.remove name).Refused set) :
    s.removeProfile m name =
      s.store m path ((ProfileCommand.remove name).after set) ("✓ Removed profile " ++ name) := by
  obtain ⟨properties, -, hremove, -⟩ := ProfileCommand.after_remove h
  simp only [removeProfile, requirePath_eq hpath, hprofiles]
  simp only [bind, Except.bind, hremove]
  rfl

/-- **A command on a file that holds a set is refused and changes nothing, or leaves a file that
holds what the command makes of the set.** -/
theorem runProfiles_cases (hpath : s.profilePath = some path)
    (hload : ProfileSet.loadUser m (some path) = .ok set)
    (hrun : s.runProfiles m c = (result, m')) (hstore : ¬ FailsToStore result) :
    (c.Refused set ∧ (∃ f, result = .error f) ∧ m' = m) ∨
    (¬ c.Refused set ∧ (∃ output, result = .ok output) ∧
      ProfileSet.loadUser m' (some path) = .ok (c.after set)) := by
  have hprofiles := profiles_of_loadUser hpath hload
  by_cases hrefused : c.Refused set
  · refine .inl ⟨hrefused, ?_⟩
    cases c with
    | save name text asDefault =>
      obtain ⟨f, hsave⟩ := saveProfile_refused (s := s) (m := m) asDefault hrefused
      rw [runProfiles, hsave] at hrun
      cases hrun
      exact ⟨⟨f, rfl⟩, rfl⟩
    | remove name =>
      obtain ⟨f, hremove⟩ := removeProfile_refused hpath hprofiles hrefused
      rw [runProfiles, hremove] at hrun
      cases hrun
      exact ⟨⟨f, rfl⟩, rfl⟩
    | display name =>
      obtain ⟨e, hresolve⟩ := hrefused
      rw [runProfiles, displayProfile, hprofiles] at hrun
      simp only [hresolve] at hrun
      cases hrun
      exact ⟨⟨_, rfl⟩, rfl⟩
    | list => exact hrefused.elim
    | path => exact hrefused.elim
  · refine .inr ⟨hrefused, ?_⟩
    cases c with
    | save name text asDefault =>
      rw [runProfiles, saveProfile_accepted hpath hprofiles hrefused] at hrun
      exact store_spec hrun hstore
    | remove name =>
      rw [runProfiles, removeProfile_accepted hpath hprofiles hrefused] at hrun
      exact store_spec hrun hstore
    | display name =>
      rw [runProfiles, displayProfile, hprofiles] at hrun
      cases hresolve : set.resolve name with
      | error e => exact absurd ⟨e, hresolve⟩ hrefused
      | ok properties =>
        simp only [hresolve] at hrun
        cases hrun
        exact ⟨⟨_, rfl⟩, hload⟩
    | list =>
      rw [runProfiles, listProfiles, hprofiles] at hrun
      cases hrun
      exact ⟨⟨_, rfl⟩, hload⟩
    | path =>
      rw [runProfiles, printPath, requirePath_eq hpath] at hrun
      cases hrun
      exact ⟨⟨_, rfl⟩, hload⟩

end CommandContext

/-! ### Commands after each other -/

/-- A command that was run, and what it printed or why it failed. -/
abbrev RunCommand := ProfileCommand × Except Failure String

/-- Commands on one file that were run one after another, none of which fails to write the file. Each
may have options of its own. -/
inductive ProfileRun (path : String) (start : Machine) : List RunCommand → Machine → Prop where
  | start : ProfileRun path start [] start
  | run {history : List RunCommand} {m m' : Machine} {s : CommandContext} {c : ProfileCommand}
      {result : Except Failure String} (before : ProfileRun path start history m)
      (hpath : s.profilePath = some path) (hrun : s.runProfiles m c = (result, m'))
      (hstore : ¬ FailsToStore result) : ProfileRun path start (history ++ [(c, result)]) m'

/-- The profiles that the commands that succeeded spell, in order. -/
def spelledProfiles (history : List RunCommand) : NameMap PropertyMap :=
  (history.filter (·.2.isOk)).foldl (fun profiles x => x.1.apply profiles) ∅

theorem spelledProfiles_concat (history : List RunCommand) (x : RunCommand) :
    spelledProfiles (history ++ [x]) =
      if x.2.isOk then x.1.apply (spelledProfiles history) else spelledProfiles history := by
  unfold spelledProfiles
  rw [List.filter_append, List.foldl_append]
  cases hok : x.2.isOk <;> simp [hok]

namespace ProfileRun

variable {path : String} {start m : Machine} {history : List RunCommand}

/-- The file holds what the commands that succeeded spell. -/
theorem exists_set (hnew : start.isFile path = false) (h : ProfileRun path start history m) :
    ∃ set, ProfileSet.loadUser m (some path) = .ok set ∧ set.profiles = spelledProfiles history ∧
      set.NamesDefault := by
  -- by induction on the commands: each is refused, or does to the set what it is said to do
  induction h with
  | start =>
    refine ⟨.empty, ?_, rfl, fun name hname => ?_⟩
    · simp only [ProfileSet.loadUser, hnew, Bool.false_eq_true, if_false]
    · cases hname
  | run before hpath hrun hstore ih =>
    obtain ⟨set, hload, hprofiles, hdefault⟩ := ih
    rcases CommandContext.runProfiles_cases hpath hload hrun hstore with
      ⟨-, ⟨f, rfl⟩, rfl⟩ | ⟨haccepted, ⟨output, rfl⟩, hload'⟩
    · refine ⟨set, hload, ?_, hdefault⟩
      rw [spelledProfiles_concat, hprofiles]
      rfl
    · refine ⟨_, hload', ?_, ProfileCommand.namesDefault_after haccepted hdefault⟩
      rw [ProfileCommand.profiles_after haccepted, spelledProfiles_concat, hprofiles]
      rfl

/-- **The file is a faithful map of profiles.** After commands that were run one after another where
there was no file, the file holds the profiles that the successful ones spell, and its default, if
there is one, is the name of a profile. The next command fails only if it is refused, and then
changes nothing; once it has saved a profile there is a default; and it changes the default in no
other way than it may. -/
theorem keeps_profiles (hnew : start.isFile path = false) (h : ProfileRun path start history m) :
    ∃ set, ProfileSet.loadUser m (some path) = .ok set ∧ set.profiles = spelledProfiles history ∧
      set.NamesDefault ∧
      ∀ (s : CommandContext) c result m', s.profilePath = some path →
        s.runProfiles m c = (result, m') → ¬ FailsToStore result →
        ((∃ f, result = .error f) ↔ c.Refused set) ∧ ((∃ f, result = .error f) → m' = m) ∧
        ∃ set', ProfileSet.loadUser m' (some path) = .ok set' ∧
          (∀ name text asDefault output, c = .save name text asDefault → result = .ok output →
            set'.default ≠ none) ∧
          (set'.default ≠ set.default → DefaultMoves c set.default set'.default) := by
  obtain ⟨set, hload, hprofiles, hdefault⟩ := exists_set hnew h
  refine ⟨set, hload, hprofiles, hdefault, fun s c result m' hpath hrun hstore => ?_⟩
  rcases CommandContext.runProfiles_cases hpath hload hrun hstore with
    ⟨hrefused, ⟨f, rfl⟩, rfl⟩ | ⟨haccepted, ⟨output, rfl⟩, hload'⟩
  · refine ⟨⟨fun _ => hrefused, fun _ => ⟨f, rfl⟩⟩, fun _ => rfl, set, hload, ?_, fun hne => ?_⟩
    · rintro name text asDefault output rfl ⟨⟩
    · exact absurd rfl hne
  · have hok : ¬ ∃ f, (Except.ok output : Except Failure String) = .error f := by
      rintro ⟨f, ⟨⟩⟩
    refine ⟨⟨fun hfails => absurd hfails hok, fun hrefused => absurd hrefused haccepted⟩,
      fun hfails => absurd hfails hok, c.after set, hload', ?_, fun hne => ?_⟩
    · rintro name text asDefault output rfl -
      exact ProfileCommand.default_after_save haccepted
    · exact ProfileCommand.defaultMoves_after haccepted hne

/-- What is saved first is the default. The default goes with its profile, and the next profile that is
saved becomes it. A command that is refused then changes nothing. -/
theorem keeps_profiles_first :
    let path := "/home/config.toml"
    let start : Machine := ⟨.empty, 0, fun _ => "", 0⟩
    let s : CommandContext := ⟨{}, some path, []⟩
    let dev : ProfileCommand := .save "dev" "URL=http://host; User=me" false
    let gone : ProfileCommand := .remove "dev"
    let prod : ProfileCommand := .save "prod" "URL=http://other" false
    let history : List RunCommand := [(dev, .ok "✓ Saved profile dev\n"),
      (gone, .ok "✓ Removed profile dev\n"), (prod, .ok "✓ Saved profile prod\n")]
    ∃ m₁ m₂ m₃ set₁ set₂ set₃, s.runProfiles start dev = (.ok "✓ Saved profile dev\n", m₁) ∧
      s.runProfiles m₁ gone = (.ok "✓ Removed profile dev\n", m₂) ∧
      s.runProfiles m₂ prod = (.ok "✓ Saved profile prod\n", m₃) ∧
      s.runProfiles m₃ gone = (.error (.say "profile not found: dev"), m₃) ∧
      ProfileSet.loadUser m₁ (some path) = .ok set₁ ∧
        set₁.profiles = spelledProfiles (history.take 1) ∧ set₁.default = some "dev" ∧
      ProfileSet.loadUser m₂ (some path) = .ok set₂ ∧
        set₂.profiles = spelledProfiles (history.take 2) ∧ set₂.default = none ∧
      ProfileSet.loadUser m₃ (some path) = .ok set₃ ∧
        set₃.profiles = spelledProfiles history ∧ set₃.default = some "prod" ∧
      gone.Refused set₃ := by
  intro path start s dev gone prod history
  have hstore (output : String) : ¬ FailsToStore (.ok output) := by
    rintro ⟨place, reason, ⟨⟩⟩
  obtain ⟨p₁, h₁⟩ : ∃ p, s.runProfiles start dev = p := ⟨_, rfl⟩
  obtain ⟨p₂, h₂⟩ : ∃ p, s.runProfiles p₁.2 gone = p := ⟨_, rfl⟩
  obtain ⟨p₃, h₃⟩ : ∃ p, s.runProfiles p₂.2 prod = p := ⟨_, rfl⟩
  obtain ⟨p₄, h₄⟩ : ∃ p, s.runProfiles p₃.2 gone = p := ⟨_, rfl⟩
  -- what the commands print, and which default the file then names, is computed in one go
  have hprinted : (p₁.1 = .ok "✓ Saved profile dev\n" ∧ p₂.1 = .ok "✓ Removed profile dev\n" ∧
        p₃.1 = .ok "✓ Saved profile prod\n" ∧ p₄.1 = .error (.say "profile not found: dev")) ∧
      [p₁.2, p₂.2, p₃.2].map (fun m => (ProfileSet.loadUser m (some path)).toOption.map (·.default)) =
        [some (some "dev"), some none, some (some "prod")] := by
    subst h₁ h₂ h₃ h₄
    decide +kernel
  obtain ⟨r₁, m₁⟩ := p₁
  obtain ⟨r₂, m₂⟩ := p₂
  obtain ⟨r₃, m₃⟩ := p₃
  obtain ⟨r₄, m₄⟩ := p₄
  obtain ⟨⟨rfl, rfl, rfl, rfl⟩, hdefaults⟩ := hprinted
  have hstore₄ : ¬ FailsToStore (.error (.say "profile not found: dev")) := by
    rintro ⟨place, reason, h⟩
    have hreports := congrArg List.length (congrArg Failure.reports (Except.error.inj h))
    cases hreports
  have hrun₁ : ProfileRun path start (history.take 1) m₁ := .run .start rfl h₁ (hstore _)
  have hrun₂ : ProfileRun path start (history.take 2) m₂ := .run hrun₁ rfl h₂ (hstore _)
  have hrun₃ : ProfileRun path start history m₃ := .run hrun₂ rfl h₃ (hstore _)
  have hnew : start.isFile path = false := by decide +kernel
  obtain ⟨set₁, hload₁, hprofiles₁, -⟩ := keeps_profiles hnew hrun₁
  obtain ⟨set₂, hload₂, hprofiles₂, -⟩ := keeps_profiles hnew hrun₂
  obtain ⟨set₃, hload₃, hprofiles₃, -, hnext⟩ := keeps_profiles hnew hrun₃
  obtain ⟨hrefused, hsame, -⟩ := hnext s gone _ m₄ rfl h₄ hstore₄
  rw [hsame ⟨_, rfl⟩] at h₄
  obtain ⟨hdefault₁, hdefault₂, hdefault₃⟩ :
      set₁.default = some "dev" ∧ set₂.default = none ∧ set₃.default = some "prod" := by
    simpa [hload₁, hload₂, hload₃, Except.toOption] using hdefaults
  exact ⟨m₁, m₂, m₃, set₁, set₂, set₃, h₁, h₂, h₃, h₄, hload₁, hprofiles₁, hdefault₁,
    hload₂, hprofiles₂, hdefault₂, hload₃, hprofiles₃, hdefault₃, hrefused.1 ⟨_, rfl⟩⟩

end ProfileRun

end OlapClient
