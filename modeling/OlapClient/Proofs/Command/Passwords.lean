import OlapClient.Proofs.Command.Profiles
import OlapClient.Proofs.Property.Settings

namespace OlapClient

open Cache (Vault)
open Report (masked shown line)

/-!
# Passwords are not printed

Commands print properties with their passwords hidden. Whatever they print of a map can be read off
the map in which passwords are hidden, so it does not depend on them: neither the texts and their
quotes, nor the order of properties, nor what is reported as wrong.

* `PropertyMap.SameButPasswords`, `ProfileSet.SameButPasswords` — differing in passwords only.
* `Report.masked_eq_map`, `PropertyMap.SameButPasswords.masked_eq` — hiding passwords, which makes
  such maps equal.
* `route_masked_connection`, `route_masked_cache`, `CommandContext.problem?_masked` — what a map is
  routed to and what is wrong with it, with its passwords hidden.
* `CommandContext.printRouted_masked`, `CommandContext.printProfiles_masked` — what is printed of a
  map and of a set is printed of those in which passwords are hidden.
* `passwords_not_printed` — the commands print the same whatever the passwords are.
-/

/-! ### Hiding passwords -/

/-- Two maps differ in the values of passwords only. -/
structure PropertyMap.SameButPasswords (P Q : PropertyMap) : Prop where
  names : ∀ name, (P.find? name).isSome = (Q.find? name).isSome
  values : ∀ name, eqIgnoringCase name "password" = false → P.find? name = Q.find? name

namespace Report

variable {key : String}

theorem shown_of_password (h : eqIgnoringCase key "password" = true) (value : String) :
    shown key value = hidden :=
  if_pos h

theorem shown_of_other (h : eqIgnoringCase key "password" = false) (value : String) :
    shown key value = value := by
  rw [shown, h, if_neg Bool.false_ne_true]

theorem shown_shown (key value : String) : shown key (shown key value) = shown key value := by
  cases h : eqIgnoringCase key "password" with
  | true => rw [shown_of_password h, shown_of_password h]
  | false => rw [shown_of_other h]

theorem masked_eq_map (P : PropertyMap) : masked P = P.map shown := by
  rw [masked, ← Std.ExtTreeMap.toList_map, NameMap.ofPairs_toList]

theorem find?_masked (P : PropertyMap) (key : String) :
    (masked P).find? key = (P.find? key).map (shown key) := by
  rw [masked_eq_map, NameMap.find?_map]

/-- What is hidden stays hidden. -/
theorem masked_masked (P : PropertyMap) : masked (masked P) = masked P := by
  refine NameMap.ext_find? fun key => ?_
  rw [find?_masked, find?_masked, Option.map_map]
  exact congrArg (Option.map · _) (funext (shown_shown key))

theorem find?_masked_of_other (P : PropertyMap) (h : eqIgnoringCase key "password" = false) :
    (masked P).find? key = P.find? key := by
  rw [find?_masked, funext (shown_of_other h), Option.map_id']

end Report

/-- Maps that differ in passwords only are the same when these are hidden. -/
theorem PropertyMap.SameButPasswords.masked_eq {P Q : PropertyMap} (h : P.SameButPasswords Q) :
    masked P = masked Q := by
  refine NameMap.ext_find? fun key => ?_
  cases hkey : eqIgnoringCase key "password" with
  | false =>
    rw [Report.find?_masked_of_other P hkey, Report.find?_masked_of_other Q hkey,
      h.values key hkey]
  | true =>
    -- a password is hidden whatever it is, so it only counts whether there is one
    have hnames := h.names key
    rw [Report.find?_masked, Report.find?_masked, funext (Report.shown_of_password hkey)]
    revert hnames
    cases P.find? key <;> cases Q.find? key <;> simp

/-! ### Connect strings -/

/-- The name of a cache property is not that of a password, whatever its name in the cache is. -/
theorem eqIgnoringCase_cacheScope (name : String) :
    eqIgnoringCase ("Cache." ++ name) "password" = false := by
  have hscope : ("Cache." : String).toList = cacheScope := rfl
  rw [eqIgnoringCase, beq_eq_false_iff_ne, lowerString, lowerString, Ne, String.ofList_inj,
    String.toList_append, hscope, List.map_append]
  intro h
  have hhead : 'c' = 'p' := Option.some.inj (congrArg List.head? h)
  exact absurd hhead (by decide)

theorem route_masked_connection (P : PropertyMap) :
    (route (masked P)).connection = masked (route P).connection := by
  refine NameMap.ext_find? fun name => ?_
  rw [route_connection_find?, Report.find?_masked, Report.find?_masked, route_connection_find?]
  split <;> rfl

/-- No property of the cache is hidden. -/
theorem route_masked_cache (P : PropertyMap) : (route (masked P)).cache = (route P).cache := by
  refine NameMap.ext_find? fun name => ?_
  by_cases hname : name = ""
  · rw [hname, route_cache_find?_empty, route_cache_find?_empty]
  · rw [route_cache_find? _ hname, route_cache_find? _ hname,
      Report.find?_masked_of_other P (eqIgnoringCase_cacheScope name)]

namespace CommandContext

/-- What is wrong with the properties of a connection has nothing to do with passwords. -/
theorem problem?_masked (P : PropertyMap) : problem? (masked P) = problem? P := by
  -- only the server and the timeout can be wrong, and neither is a password
  have hvalue (key : String) (h : eqIgnoringCase key "password" = false) :
      Settings.value? (masked P) key = Settings.value? P key := by
    rw [Settings.value?, Settings.value?, Report.find?_masked_of_other P h]
  have hserver : Settings.readServer (masked P) = Settings.readServer P := by
    rw [Settings.readServer, Settings.readServer, hvalue "Server" (by decide)]
  have htimeout : Settings.readTimeout (masked P) = Settings.readTimeout P := by
    rw [Settings.readTimeout, Settings.readTimeout, hvalue "Timeout" (by decide)]
  rw [problem?, problem?, Settings.ofProperties, Settings.ofProperties, hserver, htimeout]
  cases Settings.readServer P with
  | error e => rfl
  | ok server => cases Settings.readTimeout P <;> rfl

variable {s s' : CommandContext} {m m' : Machine} {set set' : ProfileSet}

/-- What is printed of the properties to inspect. -/
def printRouted (s : CommandContext) (P : PropertyMap) : String :=
  if s.options.json then routedJson (route P) else routedText (route P)

theorem printRouted_masked (s : CommandContext) (P : PropertyMap) :
    s.printRouted (masked P) = s.printRouted P := by
  simp only [printRouted, routedJson, routedText, route_masked_connection, route_masked_cache,
    Report.masked_masked, problem?_masked]

theorem inspect_eq (s : CommandContext) (m : Machine) (text : Option String) :
    s.inspect m text = ((s.inspected m text).map masked).map s.printRouted := by
  unfold inspect
  cases s.inspected m text with
  | error e => rfl
  | ok P => exact congrArg Except.ok (s.printRouted_masked P).symm

/-- What is printed of two maps is the same if only their passwords differ. -/
theorem inspect_congr {text text' : Option String} (hjson : s.options.json = s'.options.json)
    (h : (s.inspected m text).map masked = (s'.inspected m' text').map masked) :
    s.inspect m text = s'.inspect m' text' := by
  have hprint : s.printRouted = s'.printRouted := by
    funext P
    rw [printRouted, printRouted, hjson]
  rw [inspect_eq, inspect_eq, h, hprint]

/-- The properties of a connect string that was read, with passwords hidden. -/
theorem masked_parse {text text' : String} {P P' : PropertyMap}
    (hP : ConnectString.parse text = .ok P) (hP' : ConnectString.parse text' = .ok P')
    (h : P.SameButPasswords P') : (parse text).map masked = (parse text').map masked := by
  rw [parse, parse, hP, hP']
  exact congrArg Except.ok h.masked_eq

theorem inspect_text_congr (s : CommandContext) (m m' : Machine) {text text' : String}
    {P P' : PropertyMap} (hP : ConnectString.parse text = .ok P)
    (hP' : ConnectString.parse text' = .ok P') (h : P.SameButPasswords P') :
    s.inspect m (some text) = s.inspect m' (some text') := by
  refine inspect_congr rfl ?_
  rw [inspected, inspected]
  split
  · rfl
  · exact masked_parse hP hP' h

/-- The same command line with a connect string as an option. -/
def connectedBy (s : CommandContext) (text : String) : CommandContext :=
  { s with options := { s.options with connect := some text } }

/-- Without a profile the option is the connect string. -/
theorem inspected_connectedBy (s : CommandContext) (m : Machine) (text : String) :
    (s.connectedBy text).inspected m none =
      if s.options.profile = none then parse text
      else .error (.say "--connect and --profile cannot be used together") := by
  rw [inspected, properties, connectedBy]
  dsimp only
  cases s.options.profile <;> rfl

theorem inspect_connectedBy_congr (s : CommandContext) (m m' : Machine) {text text' : String}
    {P P' : PropertyMap} (hP : ConnectString.parse text = .ok P)
    (hP' : ConnectString.parse text' = .ok P') (h : P.SameButPasswords P') :
    (s.connectedBy text).inspect m none = (s.connectedBy text').inspect m' none := by
  refine inspect_congr rfl ?_
  rw [inspected_connectedBy, inspected_connectedBy]
  split
  · exact masked_parse hP hP' h
  · rfl

end CommandContext

/-! ### Profiles -/

namespace ProfileSet

/-- Two sets differ in the values of passwords only. -/
structure SameButPasswords (set set' : ProfileSet) : Prop where
  default : set.default = set'.default
  profiles : ∀ name, Option.Rel PropertyMap.SameButPasswords (set.find? name) (set'.find? name)

/-- The set in whose profiles passwords are hidden. -/
def masked (set : ProfileSet) : ProfileSet :=
  { set with profiles := set.profiles.map fun _ P => Report.masked P }

variable {set set' : ProfileSet}

theorem find?_masked (set : ProfileSet) (name : String) :
    set.masked.find? name = (set.find? name).map Report.masked :=
  NameMap.find?_map set.profiles _ name

theorem SameButPasswords.masked_eq (h : set.SameButPasswords set') : set.masked = set'.masked := by
  have hprofiles : set.masked.profiles = set'.masked.profiles := by
    refine NameMap.ext_find? fun name => ?_
    have hname := h.profiles name
    show set.masked.find? name = set'.masked.find? name
    rw [find?_masked, find?_masked]
    generalize set.find? name = P, set'.find? name = Q at hname
    cases hname with
    | none => rfl
    | some hPQ => exact congrArg some hPQ.masked_eq
  exact congrArg₂ ProfileSet.mk h.default hprofiles

/-- A profile is found under the same names when passwords are hidden. -/
theorem resolve_masked (set : ProfileSet) (name : Option String) :
    set.masked.resolve name = (set.resolve name).map Report.masked := by
  have hdefault : set.masked.default = set.default := rfl
  rw [resolve, resolve, hdefault]
  cases name <|> set.default with
  | none => rfl
  | some name =>
    dsimp only
    rw [find?_masked]
    cases set.find? name <;> rfl

end ProfileSet

namespace CommandContext

variable {s s' : CommandContext} {m m' : Machine} {set set' : ProfileSet}

theorem shownString_masked (P : PropertyMap) : shownString (masked P) = shownString P := by
  rw [shownString, shownString, Report.masked_masked]

theorem profileLine_masked (set : ProfileSet) (p : String × PropertyMap) :
    profileLine set.masked (p.1, masked p.2) = profileLine set p := by
  rw [profileLine, profileLine, shownString_masked]
  rfl

theorem profileJson_masked (set : ProfileSet) (p : String × PropertyMap) :
    profileJson set.masked (p.1, masked p.2) = profileJson set p := by
  rw [profileJson, profileJson, shownString_masked]
  rfl

/-- What is printed of a set is printed of that in which passwords are hidden. -/
theorem printProfiles_masked (s : CommandContext) (set : ProfileSet) :
    s.printProfiles set.masked = s.printProfiles set := by
  have hlist : set.masked.profiles.toList = set.profiles.toList.map fun p => (p.1, masked p.2) :=
    Std.ExtTreeMap.toList_map
  have hlines : set.masked.profiles.toList.map (profileLine set.masked) =
      set.profiles.toList.map (profileLine set) := by
    rw [hlist, List.map_map]
    exact congrArg (List.map · _) (funext (profileLine_masked set))
  have hitems : set.masked.profiles.toList.map (profileJson set.masked) =
      set.profiles.toList.map (profileJson set) := by
    rw [hlist, List.map_map]
    exact congrArg (List.map · _) (funext (profileJson_masked set))
  have hnone : set.masked.profiles.toList = [] ↔ set.profiles.toList = [] := by
    rw [hlist, List.map_eq_nil_iff]
  simp only [printProfiles, hlines, hitems, hnone]

theorem listProfiles_eq (h : s.profiles m = .ok set) :
    s.listProfiles m = .ok (s.printProfiles set.masked) := by
  rw [listProfiles, h, printProfiles_masked]
  rfl

/-- What is printed of a profile. -/
def printProfile (s : CommandContext) (P : PropertyMap) : String :=
  line (if s.options.json then (Report.jsonProperties (masked P)).pretty else shownString P)

theorem printProfile_masked (s : CommandContext) (P : PropertyMap) :
    s.printProfile (masked P) = s.printProfile P := by
  rw [printProfile, printProfile, Report.masked_masked, shownString_masked]

theorem displayProfile_eq (h : s.profiles m = .ok set) (name : Option String) :
    s.displayProfile m name =
      ((set.masked.resolve name).mapError Failure.ofProfile).map s.printProfile := by
  rw [displayProfile, h, ProfileSet.resolve_masked]
  dsimp only
  cases set.resolve name with
  | error e => rfl
  | ok P => exact congrArg Except.ok (s.printProfile_masked P).symm

/-- The properties of a profile are inspected with passwords hidden. -/
theorem inspected_profile (hconnect : s.options.connect = none) (h : s.profiles m = .ok set) :
    (s.inspected m none).map masked =
      (set.masked.resolve s.options.profile).mapError fun e =>
        (Failure.ofProfile e).within "no connection given: pass --connect or --profile" := by
  rw [inspected, properties, hconnect, h, ProfileSet.resolve_masked]
  dsimp only
  cases set.resolve s.options.profile <;> rfl

theorem inspect_profile_congr (hconnect : s.options.connect = none) (h : s.profiles m = .ok set)
    (h' : s.profiles m' = .ok set') (hsame : set.SameButPasswords set') :
    s.inspect m none = s.inspect m' none := by
  refine inspect_congr rfl ?_
  rw [inspected_profile hconnect h, inspected_profile hconnect h', hsame.masked_eq]

/-! ### Commands -/

theorem run_list (s : CommandContext) (v : Vault) :
    s.run v (.profiles .list) = .done (s.listProfiles v.machine, v) :=
  rfl

theorem run_display (s : CommandContext) (v : Vault) (name : Option String) :
    s.run v (.profiles (.display name)) = .done (s.displayProfile v.machine name, v) :=
  rfl

theorem run_inspect (s : CommandContext) (v : Vault) (text : Option String) :
    s.run v (.inspect text) = .done (s.inspect v.machine text, v) :=
  rfl

/-- **Passwords are not printed.** On two machines whose sets of profiles differ in passwords only,
listing the profiles prints the same, as text and as JSON, and so does displaying a profile, be it
named or the default, and inspecting the profile that the options name: what one machine prints, or
reports as the failure, the other does. The same holds of two connect strings that are read as maps
that differ in passwords only, be they given to the command or as an option. Nothing else is
changed, and a command only fails if there is no such profile, or if a connection is named twice. -/
theorem passwords_not_printed (s : CommandContext) (v v' : Vault) :
    (∀ set set', s.profiles v.machine = .ok set → s.profiles v'.machine = .ok set' →
      set.SameButPasswords set' →
      (∃ output, s.run v (.profiles .list) = .done (.ok output, v) ∧
        s.run v' (.profiles .list) = .done (.ok output, v')) ∧
      (∀ name, ∃ result, s.run v (.profiles (.display name)) = .done (result, v) ∧
        s.run v' (.profiles (.display name)) = .done (result, v') ∧
        ((∃ P, set.resolve name = .ok P) → ∃ output, result = .ok output)) ∧
      (s.options.connect = none → ∃ result, s.run v (.inspect none) = .done (result, v) ∧
        s.run v' (.inspect none) = .done (result, v') ∧
        ((∃ P, set.resolve s.options.profile = .ok P) → ∃ output, result = .ok output))) ∧
    ∀ text text' P P', ConnectString.parse text = .ok P → ConnectString.parse text' = .ok P' →
      P.SameButPasswords P' →
      (∃ result, s.run v (.inspect (some text)) = .done (result, v) ∧
        s.run v' (.inspect (some text')) = .done (result, v') ∧
        (s.options.connect = none → ∃ output, result = .ok output)) ∧
      ∃ result, (s.connectedBy text).run v (.inspect none) = .done (result, v) ∧
        (s.connectedBy text').run v' (.inspect none) = .done (result, v') ∧
        (s.options.profile = none → ∃ output, result = .ok output) := by
  refine ⟨fun set set' hset hset' hsame => ⟨?_, fun name => ?_, fun hconnect => ?_⟩,
    fun text text' P P' hP hP' hsame => ⟨?_, ?_⟩⟩
  · refine ⟨s.printProfiles set.masked, ?_, ?_⟩
    · rw [run_list, listProfiles_eq hset]
    · rw [run_list, listProfiles_eq hset', hsame.masked_eq]
  · refine ⟨_, s.run_display v name, ?_, ?_⟩
    · rw [run_display, displayProfile_eq hset, displayProfile_eq hset', hsame.masked_eq]
    · rintro ⟨P, hresolve⟩
      rw [displayProfile_eq hset, ProfileSet.resolve_masked, hresolve]
      exact ⟨_, rfl⟩
  · refine ⟨_, s.run_inspect v none, ?_, ?_⟩
    · rw [run_inspect, inspect_profile_congr hconnect hset hset' hsame]
    · rintro ⟨P, hresolve⟩
      rw [inspect_eq, inspected_profile hconnect hset, ProfileSet.resolve_masked, hresolve]
      exact ⟨_, rfl⟩
  · refine ⟨_, s.run_inspect v (some text), ?_, fun hconnect => ?_⟩
    · rw [run_inspect, s.inspect_text_congr v.machine v'.machine hP hP' hsame]
    · rw [inspect, inspected, hconnect, parse, hP]
      exact ⟨_, rfl⟩
  · refine ⟨_, (s.connectedBy text).run_inspect v none, ?_, fun hprofile => ?_⟩
    · rw [run_inspect, s.inspect_connectedBy_congr v.machine v'.machine hP hP' hsame]
    · rw [inspect, inspected_connectedBy, if_pos hprofile, parse, hP]
      exact ⟨_, rfl⟩

/-- Two passwords of which one has to be quoted, and a server that cannot be used. -/
theorem passwords_not_printed_bad_server :
    let start : Machine := ⟨.empty, 0, fun _ => "", 0⟩
    let s : CommandContext := ⟨{}, some "/home/config.toml", []⟩
    let text := "Server=ftp://h;Password=\"a;b\""
    let text' := "Server=ftp://h;Password=c"
    let saved (text : String) : Vault := .empty (s.runProfiles start (.save "dev" text true)).2
    (∃ set set', s.profiles (saved text).machine = .ok set ∧
      s.profiles (saved text').machine = .ok set' ∧ set.SameButPasswords set' ∧
      ∃ output, s.run (saved text) (.profiles .list) = .done (.ok output, saved text) ∧
        s.run (saved text') (.profiles .list) = .done (.ok output, saved text')) ∧
    ∃ P P', ConnectString.parse text = .ok P ∧ ConnectString.parse text' = .ok P' ∧ P ≠ P' ∧
      P.SameButPasswords P' ∧
      ∃ result, s.run (saved text) (.inspect (some text)) = .done (result, saved text) ∧
        s.run (saved text') (.inspect (some text')) = .done (result, saved text') := by
  intro start s text text' saved
  let map (password : String) : PropertyMap :=
    ((∅ : PropertyMap).insert "Server" "ftp://h").insert "Password" password
  have hP : ConnectString.parse text = .ok (map "a;b") := by decide +kernel
  have hP' : ConnectString.parse text' = .ok (map "c") := by decide +kernel
  have hsame (password password' : String) : (map password).SameButPasswords (map password') := by
    refine ⟨fun name => ?_, fun name hname => ?_⟩
    · simp only [map, NameMap.find?_insert]
      split <;> rfl
    · have hne : "Password" ≠ name := by
        rintro rfl
        revert hname
        decide
      simp only [map, NameMap.find?_insert, if_neg hne]
  have hnew : start.isFile "/home/config.toml" = false := by decide +kernel
  have hempty : ProfileSet.loadUser start (some "/home/config.toml") = .ok .empty := by
    simp only [ProfileSet.loadUser, hnew, Bool.false_eq_true, if_false]
  let set (password : String) : ProfileSet :=
    ⟨some "dev", (∅ : NameMap PropertyMap).insert "dev" (map password)⟩
  have hset (text password : String) (hparse : ConnectString.parse text = .ok (map password))
      (hrun : (s.runProfiles start (.save "dev" text true)).1 = .ok "✓ Saved profile dev\n") :
      s.profiles (saved text).machine = .ok (set password) := by
    have hstore : ¬ FailsToStore (.ok "✓ Saved profile dev\n") := by
      rintro ⟨place, reason, ⟨⟩⟩
    obtain ⟨hrefused, -⟩ | ⟨-, -, hload⟩ :=
      runProfiles_cases (s := s) rfl hempty (Prod.ext hrun rfl) hstore
    · obtain hname | ⟨e, he⟩ := hrefused
      · exact absurd hname (by decide)
      · rw [hparse] at he
        cases he
    · rw [ProfileCommand.after, hparse] at hload
      exact profiles_of_loadUser rfl hload
  have hv := hset text "a;b" hP (by decide +kernel)
  have hv' := hset text' "c" hP' (by decide +kernel)
  have hsets : (set "a;b").SameButPasswords (set "c") := by
    refine ⟨rfl, fun name => ?_⟩
    simp only [set, ProfileSet.find?, NameMap.find?_insert]
    split
    · exact .some (hsame _ _)
    · rw [NameMap.find?_empty]
      exact .none
  have hne : map "a;b" ≠ map "c" := by
    intro heq
    have hfind := congrArg (NameMap.find? · "Password") heq
    simp only [map, NameMap.find?_insert_self] at hfind
    exact absurd hfind (by decide)
  obtain ⟨hprofiles, htexts⟩ := passwords_not_printed s (saved text) (saved text')
  obtain ⟨hlist, -⟩ := hprofiles _ _ hv hv' hsets
  obtain ⟨⟨result, hinspect, hinspect', -⟩, -⟩ := htexts text text' _ _ hP hP' (hsame _ _)
  exact ⟨⟨_, _, hv, hv', hsets, hlist⟩, _, _, hP, hP', hne, hsame _ _, result, hinspect, hinspect'⟩

end CommandContext

end OlapClient
