import EmbeddedFilters.Proofs.Filter.Offline
import EmbeddedFilters.Settings

/-!
# Settings that are saved and restored

Filters are saved one after another under their full names, into settings that may hold anything
already. The key of an option ends in its name, which has no point, so keys are equal only if the
full names and the options are (`Settings.optionKey_inj`). Of filters of different kinds every
option but the flag stays under its key (`Settings.hasOptions_saveAll`); the flags of filters with
one name share a key, where that of the last one stays (`Settings.get?_saveAll_flag`). What is
stored of valid parameters passes all checks when it is restored, and the option agrees with them
afterwards (`Settings.restore_option`).
-/

namespace EmbeddedFilters

open Outcome Assignment

/-- The names of the options that settings hold by name. -/
def FilterKind.settingNames (kind : FilterKind) : List String :=
  kind.optionNames.filter (· ≠ "Toggle")

namespace FilterKind

variable {kind other : FilterKind} {name : String}

/-- Settings are kept for all options of a kind but its flag. -/
lemma mem_settingNames : name ∈ kind.settingNames ↔ name ∈ kind.optionNames ∧ name ≠ "Toggle" := by
  simp [settingNames]

/-- There is no point in the name of an option that settings are kept for. -/
lemma no_point (h : name ∈ kind.settingNames) : '.' ∉ name.toList := by
  have hall : ∀ kind : FilterKind, ∀ name ∈ kind.settingNames, '.' ∉ name.toList := by
    rintro (_ | _) <;> decide
  exact hall kind name h

/-- No option that settings are kept for is named like the key of the flag. -/
lemma ne_enabled (h : name ∈ kind.settingNames) : name ≠ "enabled" := by
  rintro rfl
  cases kind <;> revert h <;> decide

/-- Options of different kinds have different names. -/
lemma eq_of_settingNames (h : name ∈ kind.settingNames) (h' : name ∈ other.settingNames) :
    kind = other := by
  have hall : ∀ name ∈ settingNames .decimation, name ∉ settingNames .temporal := by decide
  cases kind <;> cases other
  · rfl
  · exact absurd h' (hall name h)
  · exact absurd h (hall name h')
  · rfl

end FilterKind

namespace Settings

/-! ### Keys -/

/-- Setting a key changes what is found under this key. -/
lemma get?_set (s : Settings) (key other : String) (value : OptionValue) :
    (s.set key value).get? other = if other = key then some value else s.get? other := by
  show ((place key value s.entries).find? fun e => e.1 == other).map (·.2) = _
  have hplace : (place key value s.entries).find? (fun e => e.1 == other) =
      if other = key then some (key, value) else s.entries.find? fun e => e.1 == other := by
    induction s.entries with
    | nil =>
      by_cases h : other = key
      · simp [place, h]
      · simp [place, h, Ne.symm h]
    | cons e rest ih =>
      obtain ⟨k, v⟩ := e
      unfold place
      split
      · by_cases h : other = key
        · simp [h]
        · simp [h, Ne.symm h]
      · split
        · rename_i heq
          rw [beq_iff_eq] at heq
          by_cases h : other = key
          · simp [h]
          · simp [h, Ne.symm h, ← heq]
        · rename_i hne
          rw [beq_iff_eq] at hne
          rw [List.find?_cons, ih, List.find?_cons]
          by_cases h : other = key
          · subst h
            rw [beq_false_of_ne (Ne.symm hne), if_pos rfl]
          · rw [if_neg h, if_neg h]
  rw [hplace]
  split <;> rfl

/-- Keys whose last parts have no points are equal part by part. -/
lemma optionKey_inj {full full' name name' : String} (h : '.' ∉ name.toList)
    (h' : '.' ∉ name'.toList) :
    optionKey full name = optionKey full' name' ↔ full = full' ∧ name = name' := by
  constructor
  · intro heq
    have hlist : full.toList ++ '.' :: name.toList = full'.toList ++ '.' :: name'.toList := by
      have := congrArg String.toList heq
      simpa [optionKey] using this
    -- one full name is a part of the other, and what follows has no point before the last part
    obtain ⟨middle, hfull, hname⟩ | ⟨middle, hfull, hname⟩ := List.append_eq_append_iff.mp hlist
    · cases middle with
      | nil =>
        rw [List.append_nil] at hfull
        exact ⟨(String.toList_inj.mp hfull).symm, String.toList_inj.mp (List.cons.inj hname).2⟩
      | cons c middle =>
        rw [(List.cons.inj hname).2] at h
        exact absurd (List.mem_append_right _ List.mem_cons_self) h
    · cases middle with
      | nil =>
        rw [List.append_nil] at hfull
        exact ⟨String.toList_inj.mp hfull, (String.toList_inj.mp (List.cons.inj hname).2).symm⟩
      | cons c middle =>
        rw [(List.cons.inj hname).2] at h'
        exact absurd (List.mem_append_right _ List.mem_cons_self) h'
  · rintro ⟨rfl, rfl⟩
    rfl

/-! ### Saving -/

/-- The settings have the values of all options but the flag under the full name of a filter. -/
def HasOptions (s : Settings) (full : String) (p : Parameters) : Prop :=
  ∀ name ∈ p.kind.settingNames, s.get? (optionKey full name) = find? name p.toOptions

variable {f : OfflineFilter} {s : Settings} {full : String}

/-- The ordinary options of a usable filter are those that settings are kept for. -/
lemma ordinaryOptions_offline (h : f.Usable) :
    ordinaryOptions (.offline f) = f.kind.settingNames.filterMap OptionId.ofName? := by
  show (modelIds f.models).filter (· ≠ .toggle) = _
  rw [h.models]
  cases f.kind <;> decide

/-- A usable filter saves the options that settings are kept for. -/
lemma savedNames_offline (h : f.Usable) : savedNames (.offline f) = f.kind.settingNames := by
  show (ordinaryOptions (.offline f)).filterMap (IdTable.name? {}) ++ [] = _
  rw [ordinaryOptions_offline h]
  cases f.kind <;> decide

/-- An offline filter reads an option from its parameters. -/
lemma read_offline {name : String} {v : OptionValue} (h : find? name f.params.toOptions = some v) :
    (Filter.offline f).read name = .ok v := by
  show f.value name = _
  rw [OfflineFilter.value, h]

/-- Saving options puts their values under their keys and leaves all other keys. -/
lemma saveOptions_offline {names : List String} (h : ∀ name ∈ names, name ∈ f.kind.settingNames)
    (s : Settings) (full : String) : ∃ s', saveOptions full (.offline f) names s = (.ok (), s') ∧
      (∀ name ∈ names, s'.get? (optionKey full name) = find? name f.params.toOptions) ∧
      ∀ key, (∀ name ∈ names, key ≠ optionKey full name) → s'.get? key = s.get? key := by
  induction names generalizing s with
  | nil => exact ⟨s, rfl, by simp, fun _ _ => rfl⟩
  | cons name names ih =>
    obtain ⟨hname, hnames⟩ := List.forall_mem_cons.mp h
    obtain ⟨v, hv⟩ :=
      Parameters.exists_find? (p := f.params) (FilterKind.mem_settingNames.mp hname).1
    obtain ⟨s', hsave, hsaved, hother⟩ := ih hnames (s.set (optionKey full name) v)
    refine ⟨s', ?_, ?_, fun key hkey => ?_⟩
    · rw [saveOptions, read_offline hv]
      exact hsave
    · -- the key of the first option is used again only if its name is
      refine List.forall_mem_cons.mpr ⟨?_, hsaved⟩
      by_cases hagain : name ∈ names
      · exact hsaved name hagain
      · have hfree : ∀ other ∈ names, optionKey full name ≠ optionKey full other := by
          intro other hmem heq
          have hsame := (optionKey_inj (FilterKind.no_point hname)
            (FilterKind.no_point (hnames other hmem))).mp heq
          exact hagain (hsame.2 ▸ hmem)
        rw [hother _ hfree, get?_set, if_pos rfl, hv]
    · obtain ⟨hfirst, hrest⟩ := List.forall_mem_cons.mp hkey
      rw [hother key hrest, get?_set, if_neg hfirst]

/-- A usable filter is saved under the keys of its options and of its flag, and nothing else
changes. -/
lemma save_offline (h : f.Usable) (s : Settings) (full : String) (enabled : Bool) :
    ∃ n s', s.save full (.offline f) enabled = (.ok n, s') ∧ s'.HasOptions full f.params ∧
      s'.get? (enabledKey full) = some (.ofBool enabled) ∧
      ∀ key, (∀ name ∈ "enabled" :: f.kind.settingNames, key ≠ optionKey full name) →
        s'.get? key = s.get? key := by
  obtain ⟨s', hsave, hsaved, hother⟩ := saveOptions_offline (f := f) (fun _ hname => hname) s full
  refine ⟨f.kind.settingNames.length, s'.set (enabledKey full) (.ofBool enabled), ?_,
    fun name hname => ?_, ?_,
    fun key hkey => ?_⟩
  · rw [save, savedNames_offline h, hsave]
  · have hne : optionKey full name ≠ enabledKey full := fun heq =>
      FilterKind.ne_enabled hname ((optionKey_inj (FilterKind.no_point hname) (by decide)).mp heq).2
    rw [get?_set, if_neg hne, hsaved name hname]
  · rw [get?_set, if_pos rfl]
  · obtain ⟨hflag, hoptions⟩ := List.forall_mem_cons.mp hkey
    have hflag : key ≠ enabledKey full := hflag
    rw [get?_set, if_neg hflag, hother key hoptions]

/-! ### Saving one filter after another -/

/-- The settings after filters have been saved one after another under their full names. -/
def saveAll (title : String) (fs : List OfflineFilter) (s : Settings) : Settings :=
  fs.foldl (fun s f => (s.save (title ++ "." ++ f.name) (.offline f) f.params.enabled).2) s

variable {fs : List OfflineFilter} (title : String)

/-- Filters are saved one list after the other. -/
lemma saveAll_append (fs gs : List OfflineFilter) (s : Settings) :
    saveAll title (fs ++ gs) s = saveAll title gs (saveAll title fs s) := List.foldl_append

/-- Under keys of which no filter has any there is what has been there. -/
lemma get?_saveAll_other (hfs : ∀ f ∈ fs, f.Usable) {key : String}
    (hkey : ∀ f ∈ fs, ∀ name ∈ "enabled" :: f.kind.settingNames,
      key ≠ optionKey (title ++ "." ++ f.name) name) (s : Settings) :
    (saveAll title fs s).get? key = s.get? key := by
  induction fs generalizing s with
  | nil => rfl
  | cons f fs ih =>
    obtain ⟨hf, hfs⟩ := List.forall_mem_cons.mp hfs
    obtain ⟨hfirst, hrest⟩ := List.forall_mem_cons.mp hkey
    obtain ⟨n, s', hsave, -, -, hother⟩ :=
      save_offline hf s (title ++ "." ++ f.name) f.params.enabled
    have hall : saveAll title (f :: fs) s = saveAll title fs s' := by
      rw [saveAll, List.foldl_cons, hsave]
      rfl
    rw [hall, ih hfs hrest, hother key hfirst]

/-- Of filters of different kinds every option but the flag stays under its key. -/
lemma hasOptions_saveAll (hfs : ∀ f ∈ fs, f.Usable) (hkinds : (fs.map OfflineFilter.kind).Nodup)
    (hf : f ∈ fs) (s : Settings) :
    (saveAll title fs s).HasOptions (title ++ "." ++ f.name) f.params := by
  induction fs generalizing s with
  | nil => cases hf
  | cons g fs ih =>
    obtain ⟨hg, hrest⟩ := List.forall_mem_cons.mp hfs
    obtain ⟨hnew, hothers⟩ := List.nodup_cons.mp hkinds
    obtain ⟨n, s', hsave, hsaved, -, -⟩ :=
      save_offline hg s (title ++ "." ++ g.name) g.params.enabled
    have hall : saveAll title (g :: fs) s = saveAll title fs s' := by
      rw [saveAll, List.foldl_cons, hsave]
      rfl
    rw [hall]
    cases List.mem_cons.mp hf with
    | inr hf => exact ih hrest hothers hf s'
    | inl heq =>
      -- no filter that is saved later has an option of this name
      subst heq
      intro name hname
      rw [get?_saveAll_other title hrest (fun g' hg' other hother heq => ?_) s', hsaved name hname]
      have hpoint : '.' ∉ other.toList := by
        cases List.mem_cons.mp hother with
        | inl h => exact h ▸ by decide
        | inr h => exact FilterKind.no_point h
      obtain rfl := ((optionKey_inj (FilterKind.no_point hname) hpoint).mp heq).2
      cases List.mem_cons.mp hother with
      | inl h => exact FilterKind.ne_enabled hname h
      | inr h =>
        have hkind : f.kind = g'.kind := FilterKind.eq_of_settingNames hname h
        exact hnew (hkind ▸ List.mem_map_of_mem hg')

/-- The flag of the last filter with a name. -/
def lastFlag (name : String) (fs : List OfflineFilter) : Bool :=
  fs.foldl (fun flag f => if f.name = name then f.params.enabled else flag) false

/-- The last flag under a name is that of the last filter with the name. -/
lemma lastFlag_append_singleton (name : String) (fs : List OfflineFilter) (f : OfflineFilter) :
    lastFlag name (fs ++ [f]) = if f.name = name then f.params.enabled else lastFlag name fs := by
  rw [lastFlag, List.foldl_append]
  rfl

/-- Where no two filters have the same name, the last filter with a name is the one that has it. -/
lemma lastFlag_of_nodup (hnames : (fs.map OfflineFilter.name).Nodup) (hf : f ∈ fs) :
    lastFlag f.name fs = f.params.enabled := by
  induction fs using List.reverseRecOn with
  | nil => cases hf
  | append_singleton fs g ih =>
    rw [List.map_append, List.nodup_append] at hnames
    obtain ⟨hnames, -, hlast⟩ := hnames
    rw [lastFlag_append_singleton]
    cases List.mem_append.mp hf with
    | inl hf =>
      have hne : g.name ≠ f.name :=
        (hlast f.name (List.mem_map_of_mem hf) g.name (List.mem_singleton_self _)).symm
      rw [if_neg hne]
      exact ih hnames hf
    | inr hf =>
      obtain rfl := List.mem_singleton.mp hf
      exact if_pos rfl

/-- The flags of filters with one name share a key, where that of the last one stays. -/
lemma get?_saveAll_flag (hfs : ∀ f ∈ fs, f.Usable) (hf : f ∈ fs) (s : Settings) :
    (saveAll title fs s).get? (enabledKey (title ++ "." ++ f.name)) =
      some (.ofBool (lastFlag f.name fs)) := by
  induction fs using List.reverseRecOn with
  | nil => cases hf
  | append_singleton fs g ih =>
    have hg := hfs g (List.mem_append_right fs (List.mem_singleton_self g))
    obtain ⟨n, s', hsave, -, hflag, hother⟩ :=
      save_offline hg (saveAll title fs s) (title ++ "." ++ g.name) g.params.enabled
    have hall : saveAll title (fs ++ [g]) s = s' := by
      rw [saveAll_append, saveAll, List.foldl_cons, hsave]
      rfl
    rw [hall, lastFlag_append_singleton]
    by_cases hsame : g.name = f.name
    · rw [if_pos hsame, ← hsame, hflag]
    · have hmem : f ∈ fs := by
        cases List.mem_append.mp hf with
        | inl hf => exact hf
        | inr hf => exact absurd (congrArg OfflineFilter.name (List.mem_singleton.mp hf)).symm hsame
      -- the flags of different names have different keys, and no option is called as the flag is
      have hkey : ∀ name ∈ "enabled" :: g.kind.settingNames,
          enabledKey (title ++ "." ++ f.name) ≠ optionKey (title ++ "." ++ g.name) name := by
        intro name hname heq
        cases List.mem_cons.mp hname with
        | inl h =>
          have hfull := ((optionKey_inj (by decide) (h ▸ by decide)).mp heq).1
          exact hsame (String.append_right_inj _ |>.mp hfull).symm
        | inr h =>
          exact FilterKind.ne_enabled h
            ((optionKey_inj (by decide) (FilterKind.no_point h)).mp heq).2.symm
      rw [if_neg hsame, hother _ hkey]
      exact ih (fun f hf => hfs f (List.mem_append_left _ hf)) hmem

/-! ### Restoring -/

/-- A filter has been written values that come nearer to the parameters: its flag is what it was,
and options that agreed still do. -/
structure Nears (p : Parameters) (f g : OfflineFilter) : Prop where
  written : f.Written g
  enabled : g.params.enabled = f.params.enabled
  agrees : ∀ name, f.params.AgreesOn p name → g.params.AgreesOn p name

/-- A usable filter is as near to parameters as it is itself. -/
lemma Nears.refl (h : f.Usable) (p : Parameters) : Nears p f f :=
  ⟨h.written_self, rfl, fun _ h => h⟩

/-- A filter that comes nearer twice comes nearer. -/
lemma Nears.trans {p : Parameters} {g k : OfflineFilter} (h : Nears p f g) (h' : Nears p g k) :
    Nears p f k :=
  ⟨h.written.trans h'.written, h'.enabled.trans h.enabled,
  fun name ha => h'.agrees name (h.agrees name ha)⟩

/-- A stored flag is read as it was stored. -/
lemma flag_of_get? {on : Bool} (h : s.get? (enabledKey full) = some (.ofBool on)) (default : Bool) :
    s.flag full default = on := by
  rw [flag, h]
  show (!(OptionValue.ofBool on).toDouble.agrees (.ofInt .double 0)) = on
  cases on <;> decide +kernel

variable {p : Parameters} {name : String} {id : OptionId}

/-- What is stored of valid parameters of the kind is written to an option, unless the option has it
already. -/
lemma candidate?_offline (hf : f.Usable) (hp : p.validate = .ok ()) (hkind : p.kind = f.kind)
    (hs : s.HasOptions full p) (hname : name ∈ f.kind.settingNames)
    (hid : OptionId.ofName? name = some id) :
    ∃ v u, find? name f.params.toOptions = some v ∧ find? name p.toOptions = some u ∧
      s.candidate? full (.offline f) id = if v.agrees u then none else some u := by
  have hdeclared := (FilterKind.mem_settingNames.mp hname).1
  obtain ⟨v, hv⟩ := Parameters.exists_find? (p := f.params) hdeclared
  obtain ⟨u, hu⟩ := Parameters.exists_find? (p := p) (hkind ▸ hdeclared)
  refine ⟨v, u, hv, hu, ?_⟩
  obtain ⟨id', d, hid', hmodel, hd⟩ := OfflineFilter.model_of_name hdeclared
  cases hid.symm.trans hid'
  have hdname : d.name = name := by simpa using List.find?_some hd
  have hfound : (Filter.offline f).model id = .ok { id, declaration := d } := by
    show findModel f.models id = _
    rw [hf.models, hmodel]
  have hquery : (Filter.offline f).query id = .ok v := by
    rw [Filter.query, hfound]
    show f.value d.name = _
    rw [hdname, OfflineFilter.value, hv]
  have hstored : s.get? (optionKey full d.name) = some u := by
    rw [hdname, hs name (hkind ▸ hname), hu]
  have hrange : d.range.contains u.toDouble = true := Parameters.in_range hp hu (hkind ▸ hd)
  simp only [candidate?, hfound, hquery, Except.toOption, OptionModel.name, Option.bind_eq_bind,
    Option.bind_some, hstored, hrange, guard, if_true]
  rfl

/-- Restoring one option brings the filter nearer to the parameters that are stored, and the option
agrees with them afterwards. -/
lemma restore_option (hf : f.Usable) (hp : p.validate = .ok ()) (hkind : p.kind = f.kind)
    (hs : s.HasOptions full p) (hname : name ∈ f.kind.settingNames)
    (hid : OptionId.ofName? name = some id) :
    ∃ g, Nears p f g ∧ g.params.AgreesOn p name ∧
      (s.candidate? full (.offline f) id = none ∧ g = f ∨
        ∃ u, s.candidate? full (.offline f) id = some u ∧
          f.setOption id u = .ok ⟨g, [], false⟩) := by
  obtain ⟨v, u, hv, hu, hcandidate⟩ := candidate?_offline hf hp hkind hs hname hid
  by_cases hagrees : v.agrees u = true
  · exact ⟨f, .refl hf p, ⟨v, u, hv, hu, hagrees⟩, .inl ⟨by rw [hcandidate, if_pos hagrees], rfl⟩⟩
  · obtain ⟨g, hwritten, hvalues, hset⟩ := hf.setOption_of_valid hp hkind hid hu
    have hself : g.params.AgreesOn p name := by
      refine ⟨u, u, ?_, hu, Parameters.agrees_self hp hu⟩
      rw [hvalues]
      exact find?_replace_self ((isSome_find? _ _).mp (hv ▸ rfl)) u
    refine ⟨g, ⟨hwritten, ?_, fun other hother => ?_⟩, hself, .inr ⟨u, ?_, hset⟩⟩
    · refine Parameters.enabled_of_find? ?_
      rw [hvalues]
      exact find?_replace_of_ne (FilterKind.mem_settingNames.mp hname).2.symm u _
    · by_cases hsame : other = name
      · exact hsame ▸ hself
      · obtain ⟨v', u', hv', hu', hagrees'⟩ := hother
        refine ⟨v', u', ?_, hu', hagrees'⟩
        rw [hvalues, find?_replace_of_ne hsame, hv']
    · rw [hcandidate, if_neg hagrees]

end Settings

end EmbeddedFilters
