import StorageTelemetry.Proofs.Recording.MeterView

namespace StorageTelemetry

/-!
# The series of a registry

Whatever is created, families have different names, and the series of a family
different label values, one for each key.  In a registry that only the cache
creates series in, every family is moreover that of some kind and series, with
the label keys of the kind.  So a creation is never refused.

The series of a family are looked at without the family itself.  A family that
was never created then looks like one without series.
-/

namespace Registry

/-- The series of the family with a name. -/
def seriesAt (registry : Registry) (name : String) : List Series :=
  ((registry.family? name).map (·.series)).getD []

/-- The names, help texts and label keys of the families. -/
def descriptions (registry : Registry) : List (String × String × List String) :=
  registry.families.map fun family => (family.name, family.help, family.keys)

/-- Whether families are apart by their names, and the series of a family by
their label values. -/
structure Apart (registry : Registry) : Prop where
  names : (registry.families.map (·.name)).Nodup
  distinct : ∀ family ∈ registry.families, (family.series.map (·.values)).Nodup
  arity : ∀ family ∈ registry.families, ∀ series ∈ family.series,
    series.values.length = family.keys.length

/-- What holds of a registry that only the cache creates series in. -/
structure Sound (registry : Registry) : Prop where
  names : (registry.families.map (·.name)).Nodup
  described : ∀ family ∈ registry.families, ∃ kind : EntityKind, ∃ spec ∈ kind.series,
    family.name = kind.seriesName spec ∧ family.help = spec.help ∧ family.keys = kind.labelKeys
  distinct : ∀ family ∈ registry.families, (family.series.map (·.values)).Nodup
  arity : ∀ family ∈ registry.families, ∀ series ∈ family.series,
    series.values.length = family.keys.length

/-- A registry without its families: the exporter's own figures. -/
def bare (registry : Registry) : Registry := { registry with families := [], nextId := 0 }

theorem apart_empty : empty.Apart := ⟨List.nodup_nil, by simp [empty], by simp [empty]⟩

theorem sound_empty : empty.Sound :=
  ⟨List.nodup_nil, by simp [empty], by simp [empty], by simp [empty]⟩

theorem Sound.apart {registry : Registry} (sound : registry.Sound) : registry.Apart :=
  ⟨sound.names, sound.distinct, sound.arity⟩

/-- Families that are described as before are still those of kinds and series. -/
theorem Sound.of_apart {registry after : Registry} (sound : registry.Sound) (apart : after.Apart)
    (same : after.descriptions = registry.descriptions) : after.Sound := by
  refine ⟨apart.names, fun family listed => ?_, apart.distinct, apart.arity⟩
  have described : (family.name, family.help, family.keys) ∈ after.descriptions :=
    List.mem_map_of_mem listed
  rw [same] at described
  obtain ⟨old, listed', known⟩ := List.mem_map.mp described
  simp only [Prod.mk.injEq] at known
  obtain ⟨name, help, keys⟩ := known
  rw [← name, ← help, ← keys]
  exact sound.described old listed'

theorem mem_of_family? {registry : Registry} {name : String} {family : Family}
    (found : registry.family? name = some family) :
    family ∈ registry.families ∧ family.name = name :=
  ⟨List.mem_of_find?_eq_some found, by simpa using List.find?_some found⟩

/-- With distinct names a family is the one that is found under its name. -/
theorem Apart.family?_of_mem {registry : Registry} (apart : registry.Apart) {family : Family}
    (member : family ∈ registry.families) : registry.family? family.name = some family :=
  find?_of_nodup Family.name apart.names member

/-- The series of a family are found under its name. -/
theorem Apart.seriesAt_of_mem {registry : Registry} (apart : registry.Apart) {family : Family}
    (member : family ∈ registry.families) : registry.seriesAt family.name = family.series := by
  rw [seriesAt, apart.family?_of_mem member]
  rfl

/-- What is found at a name belongs to the family with that name. -/
theorem exists_family_of_mem_seriesAt {registry : Registry} {name : String} {series : Series}
    (member : series ∈ registry.seriesAt name) :
    ∃ family ∈ registry.families, family.name = name ∧ series ∈ family.series := by
  unfold seriesAt at member
  cases found : registry.family? name with
  | none =>
      rw [found] at member
      cases member
  | some family =>
      rw [found] at member
      exact ⟨family, (mem_of_family? found).1, (mem_of_family? found).2, member⟩

/-- Under one name no two series have the same values. -/
theorem Apart.seriesAt_distinct {registry : Registry} (apart : registry.Apart) (name : String) :
    ((registry.seriesAt name).map (·.values)).Nodup := by
  unfold seriesAt
  cases found : registry.family? name with
  | none => exact List.nodup_nil
  | some family => exact apart.distinct family (mem_of_family? found).1

/-! ## Changing the series of a family -/

/-- Changes the series of the family with a name. -/
def modifySeries (registry : Registry) (name : String) (change : List Series → List Series) :
    Registry :=
  registry.modifyFamily name fun family => { family with series := change family.series }

theorem family?_modifySeries (registry : Registry) (name : String)
    (change : List Series → List Series) (other : String) :
    (registry.modifySeries name change).family? other =
      (registry.family? other).map fun family =>
        if family.name = name then { family with series := change family.series }
        else family := by
  unfold modifySeries modifyFamily family?
  rw [List.find?_map]
  congr 2
  funext family
  by_cases here : family.name = name <;> simp [here]

theorem seriesAt_modifySeries (registry : Registry) (name : String)
    (change : List Series → List Series) (other : String)
    (known : change [] = [] ∨ ∃ family, registry.family? name = some family) :
    (registry.modifySeries name change).seriesAt other =
      if other = name then change (registry.seriesAt name) else registry.seriesAt other := by
  unfold seriesAt
  rw [family?_modifySeries]
  cases found : registry.family? other with
  | none =>
      by_cases here : other = name
      · subst here
        rcases known with nothing | ⟨family, found'⟩
        · simp [found, nothing]
        · exact absurd (found.symm.trans found') (by simp)
      · simp [here]
  | some family =>
      have same := (mem_of_family? found).2
      by_cases here : other = name
      · subst here
        simp [found, same]
      · simp [same, here]

theorem descriptions_modifySeries (registry : Registry) (name : String)
    (change : List Series → List Series) :
    (registry.modifySeries name change).descriptions = registry.descriptions := by
  simp only [descriptions, modifySeries, modifyFamily, List.map_map]
  refine List.map_congr_left fun family _ => ?_
  by_cases here : family.name = name <;> simp [here]

theorem Apart.modifySeries {registry : Registry} (apart : registry.Apart) {name : String}
    {change : List Series → List Series}
    (distinct : ∀ family ∈ registry.families, family.name = name →
      ((change family.series).map (·.values)).Nodup)
    (arity : ∀ family ∈ registry.families, family.name = name →
      ∀ series ∈ change family.series, series.values.length = family.keys.length) :
    (registry.modifySeries name change).Apart := by
  have families : ∀ family ∈ (registry.modifySeries name change).families,
      ∃ old ∈ registry.families, family =
        if old.name = name then { old with series := change old.series } else old := by
    intro family member
    rcases List.mem_map.mp member with ⟨old, listed, same⟩
    exact ⟨old, listed, same.symm⟩
  refine ⟨?_, ?_, ?_⟩
  · have names : ∀ registry : Registry,
        registry.families.map (·.name) = registry.descriptions.map (·.1) := by
      intro registry
      rw [descriptions, List.map_map]
      rfl
    rw [names, descriptions_modifySeries, ← names]
    exact apart.names
  · intro family member
    rcases families family member with ⟨old, listed, rfl⟩
    by_cases here : old.name = name
    · rw [if_pos here]
      exact distinct old listed here
    · rw [if_neg here]
      exact apart.distinct old listed
  · intro family member
    rcases families family member with ⟨old, listed, rfl⟩
    by_cases here : old.name = name
    · rw [if_pos here]
      exact arity old listed here
    · rw [if_neg here]
      exact apart.arity old listed

/-! ## Creating -/

/-- The description of every series of every kind can be registered. -/
theorem registrationFault?_eq_none {kind : EntityKind} {spec : SeriesSpec}
    (member : spec ∈ kind.series) :
    registrationFault? (kind.seriesName spec) spec.help kind.labelKeys = none := by
  have all : ∀ entry ∈ EntityKind.allSeries,
      registrationFault? (entry.1.seriesName entry.2) entry.2.help entry.1.labelKeys = none := by
    decide +kernel
  exact all (kind, spec) (EntityKind.mem_allSeries member)

/-- Attaching a series under new values adds it at the end of its family. -/
theorem attach_new {registry : Registry} {family : Family} {values : List String}
    (fresh : ∀ series ∈ family.series, series.values ≠ values) :
    registry.attach family values =
      (⟨family.name, values, registry.nextId⟩,
        { registry.modifySeries family.name (· ++ [⟨registry.nextId, values, .zero⟩]) with
          nextId := registry.nextId + 1 }) := by
  have missing : family.series.find? (·.values = values) = none :=
    List.find?_eq_none.mpr fun series member => by simpa using fresh series member
  unfold attach
  rw [missing]
  rfl

/-- What comes of adding a series under values that are not in use. -/
structure Adds (registry : Registry) (name : String) (values : List String)
    (after : Registry) : Prop where
  apart : after.Apart
  described : after.descriptions = registry.descriptions
  seriesAt : ∀ other, after.seriesAt other =
    if other = name then registry.seriesAt name ++ [⟨registry.nextId, values, .zero⟩]
    else registry.seriesAt other

/-- What comes of a creation under values that are not in use. -/
structure Created (registry : Registry) (name : String) (values : List String)
    (after : Registry) : Prop where
  sound : after.Sound
  bare : after.bare = registry.bare
  seriesAt : ∀ other, after.seriesAt other =
    if other = name then registry.seriesAt name ++ [⟨registry.nextId, values, .zero⟩]
    else registry.seriesAt other

/-- Attaching a series under new values to a known family. -/
theorem Apart.attach {registry : Registry} (apart : registry.Apart) {family : Family}
    (values : List String) (member : family ∈ registry.families)
    (fresh : ∀ series ∈ family.series, series.values ≠ values)
    (fits : values.length = family.keys.length) :
    registry.Adds family.name values (registry.attach family values).2 := by
  have only : ∀ other ∈ registry.families, other.name = family.name → other = family :=
    fun other listed same => List.inj_on_of_nodup_map apart.names listed member same
  rw [attach_new fresh]
  refine ⟨?_, registry.descriptions_modifySeries family.name
    (· ++ [⟨registry.nextId, values, .zero⟩]), fun other => ?_⟩
  · have changed : (registry.modifySeries family.name
        (· ++ [⟨registry.nextId, values, .zero⟩])).Apart := by
      refine apart.modifySeries (fun other listed same => ?_) (fun other listed same => ?_)
      · rw [only other listed same, List.map_append]
        refine List.nodup_append.mpr ⟨apart.distinct family member, List.nodup_singleton _, ?_⟩
        intro first inFamily second single
        rcases List.mem_map.mp inFamily with ⟨series, inSeries, rfl⟩
        rw [List.mem_singleton.mp single]
        exact fresh series inSeries
      · rw [only other listed same]
        intro series inSeries
        rcases List.mem_append.mp inSeries with old | new
        · exact apart.arity family member series old
        · rw [List.mem_singleton.mp new]
          exact fits
    exact ⟨changed.names, changed.distinct, changed.arity⟩
  · have there := apart.family?_of_mem member
    exact seriesAt_modifySeries registry family.name
      (· ++ [⟨registry.nextId, values, .zero⟩]) other (Or.inr ⟨family, there⟩)

theorem Sound.attach {registry : Registry} (sound : registry.Sound) {family : Family}
    (values : List String) (member : family ∈ registry.families)
    (fresh : ∀ series ∈ family.series, series.values ≠ values)
    (fits : values.length = family.keys.length) :
    registry.Created family.name values (registry.attach family values).2 := by
  have adds := sound.apart.attach values member fresh fits
  refine ⟨sound.of_apart adds.apart adds.described, ?_, adds.seriesAt⟩
  rw [attach_new fresh]
  rfl

/-- A registry with one more family that has no series. -/
def register (registry : Registry) (family : Family) : Registry :=
  { registry with families := registry.families ++ [family] }

theorem seriesAt_register {registry : Registry} {name help : String} {keys : List String}
    (unknown : registry.family? name = none) (other : String) :
    (registry.register ⟨name, help, keys, []⟩).seriesAt other = registry.seriesAt other := by
  unfold seriesAt family? register
  rw [List.find?_append]
  by_cases here : name = other
  · subst here
    have missing : registry.families.find? (·.name = name) = none := unknown
    simp [missing]
  · simp [here]

theorem Apart.register {registry : Registry} (apart : registry.Apart) {name : String}
    (unknown : registry.family? name = none) (help : String) (keys : List String) :
    (registry.register ⟨name, help, keys, []⟩).Apart := by
  refine ⟨?_, ?_, ?_⟩
  · unfold Registry.register
    rw [List.map_append]
    refine List.nodup_append.mpr ⟨apart.names, List.nodup_singleton _, ?_⟩
    intro first inFamilies second single
    rcases List.mem_map.mp inFamilies with ⟨family, listed, rfl⟩
    rw [List.mem_singleton.mp single]
    simpa using List.find?_eq_none.mp unknown family listed
  · intro family listed
    rcases List.mem_append.mp listed with old | new
    · exact apart.distinct family old
    · rw [List.mem_singleton.mp new]
      exact List.nodup_nil
  · intro family listed series inSeries
    rcases List.mem_append.mp listed with old | new
    · exact apart.arity family old series inSeries
    · rw [List.mem_singleton.mp new] at inSeries
      cases inSeries

/-- A family of a kind and series that is not yet known may be registered. -/
theorem Sound.register {registry : Registry} (sound : registry.Sound) {kind : EntityKind}
    {spec : SeriesSpec} (member : spec ∈ kind.series)
    (unknown : registry.family? (kind.seriesName spec) = none) :
    (registry.register ⟨kind.seriesName spec, spec.help, kind.labelKeys, []⟩).Sound := by
  have apart := sound.apart.register unknown spec.help kind.labelKeys
  refine ⟨apart.names, fun family listed => ?_, apart.distinct, apart.arity⟩
  rcases List.mem_append.mp listed with old | new
  · exact sound.described family old
  · rw [List.mem_singleton.mp new]
    exact ⟨kind, spec, member, rfl, rfl, rfl⟩

/-- Creating a series of a kind under values that are not in use is never
refused, and adds a series at zero under these values. -/
theorem Sound.create {registry : Registry} (sound : registry.Sound) {kind : EntityKind}
    {spec : SeriesSpec} {labels : LabelSet} (member : spec ∈ kind.series)
    (keys : labels.keys = kind.labelKeys)
    (fresh : ∀ series ∈ registry.seriesAt (kind.seriesName spec), series.values ≠ labels.values) :
    ∃ after, registry.create (kind.seriesName spec) spec.help labels =
        .ok (⟨kind.seriesName spec, labels.values, registry.nextId⟩, after) ∧
      registry.Created (kind.seriesName spec) labels.values after := by
  have fits : labels.values.length = kind.labelKeys.length := by
    rw [← keys, LabelSet.values, LabelSet.keys, List.length_map, List.length_map]
  unfold Registry.create
  cases found : registry.family? (kind.seriesName spec) with
  | some family =>
      obtain ⟨listed, named⟩ := mem_of_family? found
      rcases sound.described family listed with ⟨kind', spec', member', name, help, keys'⟩
      have kinds : kind' = kind :=
        (EntityKind.seriesName_injective member' member (name.symm.trans named)).1
      subst kinds
      have fresh' : ∀ series ∈ family.series, series.values ≠ labels.values := by
        rwa [← named, sound.apart.seriesAt_of_mem listed] at fresh
      have fits' : labels.values.length = family.keys.length :=
        fits.trans (congrArg List.length keys'.symm)
      have created := sound.attach labels.values listed fresh' fits'
      simp only [keys, keys', if_true, ← named]
      exact ⟨_, by rw [attach_new fresh'], by rwa [attach_new fresh'] at created⟩
  | none =>
      have registered := sound.register member found
      have listed : ⟨kind.seriesName spec, spec.help, kind.labelKeys, []⟩ ∈
          (registry.register ⟨kind.seriesName spec, spec.help, kind.labelKeys, []⟩).families :=
        List.mem_append_right _ List.mem_cons_self
      have created := registered.attach labels.values listed (by simp) fits
      simp only [keys, registrationFault?_eq_none member]
      refine ⟨_, rfl, created.sound, created.bare, fun other => ?_⟩
      have changed := created.seriesAt other
      rw [seriesAt_register found, seriesAt_register found] at changed
      exact changed

/-! ## Setting and retiring -/

/-- Sets the value of one of some series. -/
def setSeries (handle : Handle) (value : Double) (series : List Series) : List Series :=
  series.map fun series =>
    if series.values = handle.values && series.id = handle.id then { series with value }
    else series

/-- Removes the series with some values. -/
def dropSeries (handle : Handle) (series : List Series) : List Series :=
  series.filter fun series => series.values ≠ handle.values

theorem set_eq (registry : Registry) (handle : Handle) (value : Double) :
    registry.set handle value = registry.modifySeries handle.family (setSeries handle value) :=
  rfl

theorem retire_eq (registry : Registry) (handle : Handle) :
    registry.retire handle = registry.modifySeries handle.family (dropSeries handle) :=
  rfl

theorem values_setSeries (handle : Handle) (value : Double) (series : List Series) :
    (setSeries handle value series).map (·.values) = series.map (·.values) := by
  rw [setSeries, List.map_map]
  refine List.map_congr_left fun series _ => ?_
  by_cases here : series.values = handle.values ∧ series.id = handle.id <;> simp [here]

/-- Setting a value leaves the identities of series as they are. -/
theorem exists_mem_setSeries (handle : Handle) (value : Double) (series : List Series)
    (values : List String) (id : Nat) :
    (∃ changed ∈ setSeries handle value series, changed.values = values ∧ changed.id = id) ↔
      ∃ old ∈ series, old.values = values ∧ old.id = id := by
  rw [setSeries]
  simp only [List.mem_map, exists_exists_and_eq_and]
  refine exists_congr fun old => and_congr_right fun _ => ?_
  by_cases reached : old.values = handle.values ∧ old.id = handle.id <;> simp [reached]

/-- Setting a value leaves series with other label values as they are. -/
theorem find?_setSeries_of_ne {handle : Handle} {values : List String}
    (foreign : values ≠ handle.values) (value : Double) (series : List Series) :
    (setSeries handle value series).find? (·.values = values) =
      series.find? (·.values = values) := by
  induction series with
  | nil => rfl
  | cons head rest ih =>
      rw [setSeries, List.map_cons, ← setSeries, List.find?_cons, List.find?_cons, ih]
      by_cases reached : head.values = handle.values ∧ head.id = handle.id
      · simp [reached, Ne.symm foreign]
      · simp [reached]

theorem find?_dropSeries_self (handle : Handle) (series : List Series) :
    (dropSeries handle series).find? (·.values = handle.values) = none := by
  refine List.find?_eq_none.mpr fun kept member => ?_
  simpa using (List.mem_filter.mp member).2

theorem find?_dropSeries_of_ne {handle : Handle} {values : List String}
    (foreign : values ≠ handle.values) (series : List Series) :
    (dropSeries handle series).find? (·.values = values) =
      series.find? (·.values = values) := by
  induction series with
  | nil => rfl
  | cons head rest ih =>
      by_cases dropped : head.values = handle.values
      · have shorter : dropSeries handle (head :: rest) = dropSeries handle rest :=
          List.filter_cons_of_neg (by simpa using dropped)
        have elsewhere : head.values ≠ values := fun same => foreign (same.symm.trans dropped)
        rw [shorter, ih, List.find?_cons_of_neg (by simpa using elsewhere)]
      · have kept : dropSeries handle (head :: rest) = head :: dropSeries handle rest :=
          List.filter_cons_of_pos (by simpa using dropped)
        rw [kept, List.find?_cons, List.find?_cons, ih]

theorem Apart.set {registry : Registry} (apart : registry.Apart) (handle : Handle)
    (value : Double) : (registry.set handle value).Apart := by
  rw [set_eq]
  refine apart.modifySeries (fun family listed _ => ?_) (fun family listed _ series member => ?_)
  · rw [values_setSeries]
    exact apart.distinct family listed
  · have values : series.values ∈ (setSeries handle value family.series).map (·.values) :=
      List.mem_map_of_mem member
    rw [values_setSeries] at values
    rcases List.mem_map.mp values with ⟨old, listed', same⟩
    exact same ▸ apart.arity family listed old listed'

theorem Apart.retire {registry : Registry} (apart : registry.Apart) (handle : Handle) :
    (registry.retire handle).Apart := by
  rw [retire_eq]
  refine apart.modifySeries (fun family listed _ => ?_) (fun family listed _ series member => ?_)
  · exact (apart.distinct family listed).sublist (List.filter_sublist.map _)
  · exact apart.arity family listed series (List.mem_filter.mp member).1

theorem Sound.set {registry : Registry} (sound : registry.Sound) (handle : Handle)
    (value : Double) : (registry.set handle value).Sound :=
  sound.of_apart (sound.apart.set handle value) (descriptions_modifySeries ..)

theorem Sound.retire {registry : Registry} (sound : registry.Sound) (handle : Handle) :
    (registry.retire handle).Sound :=
  sound.of_apart (sound.apart.retire handle) (descriptions_modifySeries ..)

theorem seriesAt_set (registry : Registry) (handle : Handle) (value : Double) (other : String) :
    (registry.set handle value).seriesAt other =
      if other = handle.family then setSeries handle value (registry.seriesAt handle.family)
      else registry.seriesAt other :=
  seriesAt_modifySeries registry handle.family (setSeries handle value) other (Or.inl rfl)

theorem seriesAt_retire (registry : Registry) (handle : Handle) (other : String) :
    (registry.retire handle).seriesAt other =
      if other = handle.family then dropSeries handle (registry.seriesAt handle.family)
      else registry.seriesAt other :=
  seriesAt_modifySeries registry handle.family (dropSeries handle) other (Or.inl rfl)

end Registry
end StorageTelemetry
