import Mathlib.Data.Finset.Card
import Mathlib.Logic.Function.Basic
import RelQuery.Proofs.Schema.Cache

/-!
# A cache that threads share

Any number of threads look models up in one cache and clear it.  A look-up takes
one step under the read lock, which ends it on a hit, and after a miss one step
under the write lock.  Steps of other threads may come in between, the clearing of
the cache among them, and at each write step the resolver may be another one.

The steps are those of the cache itself: `find?`, `fill` and `clear`.  A step is
recorded as an *event*, and a *run* is the sequence of events from the start.

* A fill makes the check of the read step again.  So an entry is added only where
  there is none, and one step changes the entries only by adding what was resolved
  or by forgetting everything (`Step.entries_eq`).
* So the entries are always what was resolved since the last time that the cache was
  cleared, in that order (`Run.entries_eq`), and everything else follows.
-/

namespace RelQuery

/-! ## Answers of a resolver -/

namespace Schema

variable {resolver : Resolver} {model : String}

theorem find?_of_resolveFields {known typed : Entries TypeTag} {fields : List String}
    (h : resolveFields resolver model known fields = .ok typed) (field : String) :
    if field ∈ fields then
      ∃ tag, resolver.typeOf model field = .ok tag ∧ Entries.find? field typed = some tag
    else Entries.find? field typed = Entries.find? field known := by
  induction fields generalizing known with
  | nil =>
    cases h
    simp
  | cons first fields ih =>
    obtain ⟨tag, htag, h⟩ := bind_eq_ok_iff.mp h
    have hrest := ih h
    by_cases hmem : field ∈ fields
    · rw [if_pos hmem] at hrest
      rwa [if_pos (.tail _ hmem)]
    · rw [if_neg hmem, Entries.find?_put] at hrest
      by_cases heq : first = field
      · subst heq
        rw [if_pos rfl] at hrest
        rw [if_pos (.head _)]
        exact ⟨tag, htag, hrest⟩
      · rw [if_neg heq] at hrest
        rwa [if_neg (by simp [hmem, Ne.symm heq])]

/-- A model is resolved when the resolver answers for its fields and for the type of
each of them. -/
theorem answers_of_resolve {schema : Schema} (h : resolve resolver model = .ok schema) :
    ∃ fields, resolver.fieldsFor model = .ok fields ∧ ∀ field ∈ fields,
      resolver.typeOf model field = .ok (schema.typeOf field) ∧ schema.contains field = true := by
  obtain ⟨fields, hfields, h⟩ := bind_eq_ok_iff.mp h
  obtain ⟨typed, htyped, h⟩ := bind_eq_ok_iff.mp h
  cases h
  refine ⟨fields, hfields, fun field hmem => ?_⟩
  have hfind := find?_of_resolveFields htyped field
  rw [if_pos hmem] at hfind
  obtain ⟨tag, htag, hfind⟩ := hfind
  simp [typeOf, contains, hfind, htag]

end Schema

/-! ## Steps -/

/-- A cache with the look-ups that are on their way. -/
structure SharedCache where
  /-- The cache. -/
  cache : SchemaCache := {}
  /-- The model that a thread has missed and not yet filled. -/
  missed : Nat → Option String := fun _ => none

namespace SharedCache

/-- What a step did. -/
inductive Event where
  /-- A thread found an entry under the read lock. -/
  | hit (thread : Nat) (model : String) (entry : CachedSchema)
  /-- A thread found none under the read lock. -/
  | miss (thread : Nat) (model : String)
  /-- A thread found an entry under the write lock. -/
  | kept (thread : Nat) (model : String) (entry : CachedSchema)
  /-- A thread had a model resolved under the write lock. -/
  | resolved (thread : Nat) (model : String) (resolver : Resolver) (entry : CachedSchema)
  /-- A thread asked in vain under the write lock. -/
  | failed (thread : Nat) (model : String) (resolver : Resolver) (e : Error)
  /-- The cache was cleared. -/
  | cleared

namespace Event

/-- The event of a fill, by whether there was an entry before. -/
def ofFill (thread : Nat) (model : String) (resolver : Resolver) (found : Bool) :
    Except Error CachedSchema → Event
  | .ok entry => if found then kept thread model entry else resolved thread model resolver entry
  | .error e => failed thread model resolver e

/-- What a look-up that ends with the event returns, and for which model. -/
def returned? : Event → Option (String × Except Error CachedSchema)
  | hit _ model entry | kept _ model entry | resolved _ model _ entry => some (model, .ok entry)
  | failed _ model _ e => some (model, .error e)
  | miss .. | cleared => none

/-- The entry that was resolved. -/
def resolution? : Event → Option (String × CachedSchema)
  | resolved _ model _ entry => some (model, entry)
  | _ => none

/-- The entries after an event. -/
def record (entries : Entries CachedSchema) : Event → Entries CachedSchema
  | resolved _ model _ entry => entries ++ [(model, entry)]
  | cleared => []
  | _ => entries

end Event

/-- The entries that were resolved, in order. -/
def resolutions (events : List Event) : Entries CachedSchema :=
  events.filterMap Event.resolution?

/-- One step of one thread. -/
inductive Step : SharedCache → Event → SharedCache → Prop where
  /-- A look-up that ends under the read lock. -/
  | hit {s : SharedCache} {thread : Nat} {model : String} {entry : CachedSchema}
      (idle : s.missed thread = none) (found : s.cache.find? model = some entry) :
      Step s (.hit thread model entry) s
  /-- A look-up that misses under the read lock. -/
  | miss {s : SharedCache} {thread : Nat} {model : String}
      (idle : s.missed thread = none) (missing : s.cache.find? model = none) :
      Step s (.miss thread model)
        { s with missed := Function.update s.missed thread (some model) }
  /-- A look-up that ends under the write lock, whatever the resolver is by then. -/
  | fill {s : SharedCache} {thread : Nat} {model : String} (resolver : Resolver)
      (pending : s.missed thread = some model) :
      Step s
        (.ofFill thread model resolver (s.cache.find? model).isSome
          (s.cache.fill resolver model).1)
        ⟨(s.cache.fill resolver model).2, Function.update s.missed thread none⟩
  /-- The clearing of the cache. -/
  | clear {s : SharedCache} : Step s .cleared { s with cache := s.cache.clear }

/-- The events from the start, with what they lead to. -/
inductive Run : List Event → SharedCache → Prop where
  /-- Nothing has happened, and there are no entries. -/
  | start : Run [] {}
  /-- One step more. -/
  | step {events : List Event} {event : Event} {s s' : SharedCache}
      (run : Run events s) (step : Step s event s') : Run (events ++ [event]) s'

/-! ## What a step does -/

/-- What a step does to the cache. -/
inductive Effect (cache : SchemaCache) : Event → SchemaCache → Prop where
  /-- There is an entry under the read lock. -/
  | hit {thread : Nat} {model : String} {entry : CachedSchema}
      (found : cache.find? model = some entry) : Effect cache (.hit thread model entry) cache
  /-- There is no entry under the read lock. -/
  | miss {thread : Nat} {model : String} : Effect cache (.miss thread model) cache
  /-- There is an entry under the write lock. -/
  | kept {thread : Nat} {model : String} {entry : CachedSchema}
      (found : cache.find? model = some entry) : Effect cache (.kept thread model entry) cache
  /-- There is none, and the resolver answers. -/
  | resolved {thread : Nat} {model : String} {resolver : Resolver} {schema : Schema}
      (missing : cache.find? model = none) (answer : Schema.resolve resolver model = .ok schema) :
      Effect cache (.resolved thread model resolver ⟨schema, cache.asked⟩)
        ⟨cache.entries ++ [(model, ⟨schema, cache.asked⟩)], cache.asked + 1⟩
  /-- There is none, and the resolver fails. -/
  | failed {thread : Nat} {model : String} {resolver : Resolver} {e : Error}
      (answer : Schema.resolve resolver model = .error e) :
      Effect cache (.failed thread model resolver e) { cache with asked := cache.asked + 1 }
  /-- All entries are forgotten. -/
  | cleared : Effect cache .cleared cache.clear

theorem Step.effect {s s' : SharedCache} {event : Event} (h : Step s event s') :
    Effect s.cache event s'.cache := by
  cases h with
  | hit idle found => exact .hit found
  | miss idle missing => exact .miss
  | clear => exact .cleared
  | @fill thread model resolver pending =>
    rcases SchemaCache.fill_cases resolver s.cache model with
      ⟨entry, hfind, hfill⟩ | ⟨schema, hfind, hresolve, hfill⟩ | ⟨e, hfind, hresolve, hfill⟩
    · rw [hfill, hfind]
      exact .kept hfind
    · rw [hfill, hfind]
      exact .resolved hfind hresolve
    · rw [hfill, hfind]
      exact .failed hresolve

namespace Effect

variable {cache cache' : SchemaCache} {event : Event} {model : String}

/-- The entries change only by a resolution or by clearing. -/
theorem entries_eq (h : Effect cache event cache') :
    cache'.entries = event.record cache.entries := by
  cases h <;> rfl

/-- No model has two entries. -/
theorem nodup_keys (h : Effect cache event cache') (hkeys : (Entries.keys cache.entries).Nodup) :
    (Entries.keys cache'.entries).Nodup := by
  cases h with
  | hit | miss | kept | failed => exact hkeys
  | cleared => exact .nil
  | @resolved _ model _ schema missing =>
    have hnew := Entries.find?_eq_none_iff.mp missing
    rw [Entries.keys, List.map_append]
    exact List.Nodup.append hkeys (List.nodup_singleton _) (List.disjoint_singleton.mpr hnew)

/-- What is returned is an entry of the cache by then. -/
theorem mem_of_returned {entry : CachedSchema} (h : Effect cache event cache')
    (hreturned : event.returned? = some (model, .ok entry)) : (model, entry) ∈ cache'.entries := by
  cases h with
  | hit found | kept found =>
    cases hreturned
    exact Entries.mem_of_find? found
  | resolved missing answer =>
    cases hreturned
    simp
  | miss | failed | cleared => cases hreturned

/-- A look-up returns an error when it has asked in vain.  The error is that of the
resolver, and the entries stay as they were. -/
theorem of_returned_error {e : Error} (h : Effect cache event cache')
    (hreturned : event.returned? = some (model, .error e)) :
    cache'.entries = cache.entries ∧ ∃ thread resolver,
      event = .failed thread model resolver e ∧ Schema.resolve resolver model = .error e := by
  cases h with
  | failed answer =>
    cases hreturned
    exact ⟨rfl, _, _, rfl, answer⟩
  | hit | kept | resolved | miss | cleared => cases hreturned

/-- A resolution has a number of its own. -/
theorem of_resolution {entry : CachedSchema} (h : Effect cache event cache')
    (hresolution : event.resolution? = some (model, entry)) :
    entry.serial = cache.asked ∧ cache'.asked = cache.asked + 1 := by
  cases h with
  | resolved missing answer =>
    cases hresolution
    exact ⟨rfl, rfl⟩
  | hit | kept | failed | miss | cleared => cases hresolution

/-- A model is resolved by what the resolver of the step answers. -/
theorem resolve_of_resolved {thread : Nat} {resolver : Resolver} {entry : CachedSchema}
    (h : Effect cache (.resolved thread model resolver entry) cache') :
    Schema.resolve resolver model = .ok entry.schema := by
  cases h with
  | resolved missing answer => exact answer

theorem asked_le (h : Effect cache event cache') : cache.asked ≤ cache'.asked := by
  cases h with
  | hit | kept | miss | cleared => exact Nat.le_refl _
  | resolved | failed => exact Nat.le_succ _

end Effect

/-! ## Runs -/

theorem resolutions_append (events others : List Event) :
    resolutions (events ++ others) = resolutions events ++ resolutions others :=
  List.filterMap_append

/-- Without clearing, the entries grow by what is resolved. -/
theorem foldl_record {events : List Event} (h : .cleared ∉ events)
    (entries : Entries CachedSchema) :
    events.foldl Event.record entries = entries ++ resolutions events := by
  induction events generalizing entries with
  | nil => simp [resolutions]
  | cons event events ih =>
    rw [List.foldl_cons, ih fun hmem => h (.tail _ hmem)]
    cases event with
    | cleared => exact absurd (.head _) h
    | resolved => exact List.append_assoc ..
    | hit | miss | kept | failed => rfl

/-- After clearing, there are no entries. -/
theorem foldl_record_of_cleared {events : List Event}
    (h : events = [] ∨ events.getLast? = some .cleared) :
    events.foldl Event.record [] = [] := by
  rcases h with rfl | h
  · rfl
  · obtain ⟨others, rfl⟩ := List.getLast?_eq_some_iff.mp h
    rw [List.foldl_append]
    rfl

namespace Run

variable {s : SharedCache} {events others : List Event} {event : Event}

theorem of_append_singleton (h : Run (events ++ [event]) s) :
    ∃ s', Run events s' ∧ Step s' event s := by
  generalize hall : events ++ [event] = all at h
  cases h with
  | start => simp at hall
  | step run step =>
    obtain ⟨rfl, hlast⟩ := List.append_inj' hall rfl
    cases hlast
    exact ⟨_, run, step⟩

/-- What comes first in a run is a run. -/
theorem of_append (h : Run (events ++ others) s) : ∃ s', Run events s' := by
  induction others using List.reverseRecOn generalizing s with
  | nil => exact ⟨s, by simpa using h⟩
  | append_singleton others event ih =>
    rw [← List.append_assoc] at h
    obtain ⟨s', h, -⟩ := h.of_append_singleton
    exact ih h

/-- The entries are what was resolved since the cache was cleared. -/
theorem entries_eq (h : Run events s) : s.cache.entries = events.foldl Event.record [] := by
  induction h with
  | start => rfl
  | step run step ih =>
    rw [step.effect.entries_eq, ih, List.foldl_append]
    rfl

theorem nodup_keys (h : Run events s) : (Entries.keys s.cache.entries).Nodup := by
  induction h with
  | start => exact .nil
  | step run step ih => exact step.effect.nodup_keys ih

/-- Every resolution has a number that no later one has. -/
theorem pairwise_serial (h : Run events s) :
    (resolutions events).Pairwise (fun earlier later => earlier.2.serial < later.2.serial) ∧
      ∀ r ∈ resolutions events, r.2.serial < s.cache.asked := by
  induction h with
  | start => exact ⟨.nil, by simp [resolutions]⟩
  | @step events event s s' run step ih =>
    obtain ⟨hpairwise, hlt⟩ := ih
    have hle := step.effect.asked_le
    rw [resolutions_append]
    cases hresolution : event.resolution? with
    | none =>
      have hnone : resolutions [event] = [] := by simp [resolutions, hresolution]
      rw [hnone, List.append_nil]
      exact ⟨hpairwise, fun r hr => Nat.lt_of_lt_of_le (hlt r hr) hle⟩
    | some r =>
      obtain ⟨hserial, hasked⟩ := step.effect.of_resolution hresolution
      have hone : resolutions [event] = [r] := by simp [resolutions, hresolution]
      rw [hone]
      refine ⟨List.pairwise_append.mpr ⟨hpairwise, List.pairwise_singleton _ _, ?_⟩, ?_⟩
      · intro earlier hearlier later hlater
        rw [List.mem_singleton.mp hlater, hserial]
        exact hlt earlier hearlier
      · intro r' hr'
        rcases List.mem_append.mp hr' with hr' | hr'
        · exact Nat.lt_of_lt_of_le (hlt r' hr') hle
        · rw [List.mem_singleton.mp hr']
          omega

end Run

/-! ## Between two clearings -/

variable {s : SharedCache} {earlier interval : List Event}

/-- From one clearing to the next, the entries are what was resolved. -/
theorem Run.entries_interval (h : Run (earlier ++ interval) s)
    (hstart : earlier = [] ∨ earlier.getLast? = some .cleared) (hclear : .cleared ∉ interval) :
    s.cache.entries = resolutions interval := by
  rw [h.entries_eq, List.foldl_append, foldl_record_of_cleared hstart, foldl_record hclear,
    List.nil_append]

/-- The event at a place of a run is a step from what came before to what came with
it. -/
theorem Run.exists_step {before after : List Event} {event : Event}
    (h : Run (earlier ++ (before ++ event :: after)) s) :
    ∃ s₁ s₂, Run (earlier ++ before) s₁ ∧ Step s₁ event s₂ ∧
      Run (earlier ++ (before ++ [event])) s₂ := by
  have hall : earlier ++ (before ++ event :: after) =
      (earlier ++ (before ++ [event])) ++ after := by simp
  rw [hall] at h
  obtain ⟨s₂, h₂⟩ := h.of_append
  rw [← List.append_assoc] at h₂
  obtain ⟨s₁, h₁, hstep⟩ := h₂.of_append_singleton
  rw [List.append_assoc] at h₂
  exact ⟨s₁, s₂, h₁, hstep, h₂⟩

/-- From the start or a clearing on and until the next clearing, whatever the threads
do and in whatever order:

* a model is resolved at most once, with an answer for its fields and for the type of
  each of them,
* a look-up that succeeds returns the entry that has been resolved for its model, and
  no two resolutions of a run have the same number,
* a look-up that fails returns the error of the resolver and leaves the entries as
  they were,
* there are as many entries as models that were resolved. -/
theorem entries_of_run (h : Run (earlier ++ interval) s)
    (hstart : earlier = [] ∨ earlier.getLast? = some .cleared) (hclear : .cleared ∉ interval) :
    (Entries.keys (resolutions interval)).Nodup ∧
    (∀ thread model resolver entry, .resolved thread model resolver entry ∈ interval →
      ∃ fields, resolver.fieldsFor model = .ok fields ∧ ∀ field ∈ fields,
        resolver.typeOf model field = .ok (entry.schema.typeOf field) ∧
          entry.schema.contains field = true) ∧
    (∀ before event after model entry, interval = before ++ event :: after →
      event.returned? = some (model, .ok entry) →
        (model, entry) ∈ resolutions (before ++ [event])) ∧
    (resolutions (earlier ++ interval)).Pairwise
      (fun earlier later => earlier.2.serial < later.2.serial) ∧
    (∀ before event after model e, interval = before ++ event :: after →
      event.returned? = some (model, .error e) →
        (∃ thread resolver, event = .failed thread model resolver e ∧
          Schema.resolve resolver model = .error e) ∧
        ∃ s₁ s₂, Run (earlier ++ before) s₁ ∧ Step s₁ event s₂ ∧
          s₂.cache.entries = s₁.cache.entries) ∧
    s.cache.size = (Entries.keys (resolutions interval)).toFinset.card := by
  have hentries := h.entries_interval hstart hclear
  have hnodup : (Entries.keys (resolutions interval)).Nodup := hentries ▸ h.nodup_keys
  refine ⟨hnodup, ?_, ?_, h.pairwise_serial.1, ?_, ?_⟩
  · intro thread model resolver entry hmem
    obtain ⟨before, after, rfl⟩ := List.append_of_mem hmem
    obtain ⟨s₁, s₂, -, hstep, -⟩ := h.exists_step
    exact Schema.answers_of_resolve hstep.effect.resolve_of_resolved
  · rintro before event after model entry rfl hreturned
    obtain ⟨s₁, s₂, -, hstep, hrun⟩ := h.exists_step
    have hbefore : Event.cleared ∉ before ++ [event] := by
      intro hmem
      rw [List.append_cons] at hclear
      exact hclear (List.mem_append_left _ hmem)
    rw [← hrun.entries_interval hstart hbefore]
    exact hstep.effect.mem_of_returned hreturned
  · rintro before event after model e rfl hreturned
    obtain ⟨s₁, s₂, hrun, hstep, -⟩ := h.exists_step
    obtain ⟨hsame, hfailed⟩ := hstep.effect.of_returned_error hreturned
    exact ⟨hfailed, s₁, s₂, hrun, hstep, hsame⟩
  · rw [SchemaCache.size, hentries, List.toFinset_card_of_nodup hnodup, Entries.keys,
      List.length_map]

/-- A resolver that fails. -/
def downResolver : Resolver := ⟨fun _ => .error (.schema "down"), fun _ _ => .ok .untyped⟩

/-- A resolver that gives every model one field. -/
def idResolver : Resolver := ⟨fun _ => .ok ["id"], fun _ _ => .ok .integer⟩

/-- The entry that `idResolver` leads to at the second question. -/
def idEntry : CachedSchema := ⟨⟨[("id", .integer)]⟩, 1⟩

/-- Three threads miss a model, the first of them before the cache is cleared.  The
first then asks in vain, the second has the model resolved, and the third finds the
entry of the second. -/
def race : List Event :=
  [.miss 1 "Post", .miss 2 "Post", .failed 0 "Post" downResolver (.schema "down"),
    .resolved 1 "Post" idResolver idEntry, .kept 2 "Post" idEntry]

theorem entries_of_run_race : ∃ s, Run ([.miss 0 "Post", .cleared] ++ race) s ∧
    [Event.miss 0 "Post", .cleared].getLast? = some .cleared ∧ .cleared ∉ race ∧
    (Entries.keys (resolutions race)).Nodup ∧
    (∃ fields, idResolver.fieldsFor "Post" = .ok fields ∧ ∀ field ∈ fields,
      idResolver.typeOf "Post" field = .ok (idEntry.schema.typeOf field) ∧
        idEntry.schema.contains field = true) ∧
    ("Post", idEntry) ∈ resolutions race ∧
    Schema.resolve downResolver "Post" = .error (.schema "down") ∧
    s.cache.size = (Entries.keys (resolutions race)).toFinset.card := by
  have hmissed := ((((Run.start.step (@Step.miss _ 0 "Post" rfl rfl)).step .clear).step
    (@Step.miss _ 1 "Post" rfl rfl)).step (@Step.miss _ 2 "Post" rfl rfl))
  have hfilled := ((hmissed.step (@Step.fill _ 0 "Post" downResolver rfl)).step
    (@Step.fill _ 1 "Post" idResolver rfl)).step (@Step.fill _ 2 "Post" idResolver rfl)
  have hrun : Run ([.miss 0 "Post", .cleared] ++ race) _ := hfilled
  have hclear : .cleared ∉ race := by simp [race]
  obtain ⟨hnodup, hanswers, hreturned, -, hfailed, hsize⟩ := entries_of_run hrun (.inr rfl) hclear
  obtain ⟨⟨thread, resolver, hevent, hresolve⟩, -⟩ :=
    hfailed [.miss 1 "Post", .miss 2 "Post"] _ _ "Post" (.schema "down") rfl rfl
  cases hevent
  exact ⟨_, hrun, rfl, hclear, hnodup, hanswers 1 "Post" idResolver idEntry (by simp [race]),
    hreturned race.dropLast (.kept 2 "Post" idEntry) [] "Post" idEntry rfl rfl, hresolve, hsize⟩

end SharedCache

end RelQuery
