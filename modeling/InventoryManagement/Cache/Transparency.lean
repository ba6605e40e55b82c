import InventoryManagement.Cache.Response

/-! What a wrapped function answers is its own result, of this call or of one that wrote
the cache less than its time to live ago. -/

set_option autoImplicit false

namespace InventoryManagement.Cache

open Interleaving (Program Discipline System Thread Guard Reachable)

variable {Function Data Error : Type} {functions : Function → CachedFunction Data Error}

/-! What Redis and the functions promise to every caller. -/

/-- Every key has been written. -/
def World.Written (world : World functions) : Prop :=
  ∀ key entry, world.entries key = some entry →
    .written key entry ∈ world.history ∧ entry.time ≤ world.clock

/-- What a session knows has happened. -/
structure Session.Sound (session : Session functions) (world : World functions) : Prop where
  computed : ∀ computed ∈ session.computed, .computed computed ∈ world.history
  lookup : ∀ lookup, session.lookup = some lookup → lookup.history <+: world.history

theorem Session.Sound.later {session : Session functions} {before after : World functions}
    (sound : session.Sound before) (grows : before.history <+: after.history) : session.Sound after where
  computed := fun computed member => grows.subset (sound.computed computed member)
  lookup := fun lookup found => (sound.lookup lookup found).trans grows

theorem World.Written.elapse {world : World functions} (written : world.Written) (elapsed : Nat) :
    (world.elapse elapsed).Written := by
  intro key entry found
  obtain ⟨member, past⟩ := written key entry found
  exact ⟨member, Nat.le_trans past (Nat.le_add_right _ _)⟩

theorem World.Written.record {world : World functions} (written : world.Written) (event : Event functions) :
    (world.record event).Written := by
  intro key entry found
  obtain ⟨member, past⟩ := written key entry found
  exact ⟨List.mem_append_left _ member, past⟩

theorem World.Written.write {world : World functions} (written : world.Written) (key text : String)
    (ex : Int) : (world.write key text ex).Written := by
  intro name entry found
  by_cases same : name = key
  · subst same
    have entered : some (⟨text, world.clock, ex⟩ : Entry) = some entry := by
      simpa [World.write] using found
    cases entered
    exact ⟨List.mem_append_right _ (List.mem_singleton_self _), Nat.le_refl _⟩
  · have kept : world.entries name = some entry := by
      simpa [World.write, same] using found
    obtain ⟨member, past⟩ := written name entry kept
    exact ⟨List.mem_append_left _ member, past⟩

/-- One statement: it keeps what was written and adds to what has happened. -/
theorem execute_done {statement : Statement Function} {answer : Answer Data}
    {others : List (Session functions)} {before after : World functions}
    {session updated : Session functions} {response : statement.Response functions}
    (executed : execute functions statement answer others before session = .done response after updated)
    (written : before.Written) (sound : session.Sound before) :
    after.Written ∧ updated.Sound after ∧ before.history <+: after.history := by
  cases statement with
  | func call =>
      cases executed
      refine ⟨(written.elapse _).record _, ⟨?_, ?_⟩, List.prefix_append _ _⟩
      · intro computed member
        rcases List.mem_append.mp member with old | new
        · exact List.mem_append_left _ (sound.computed computed old)
        · cases List.mem_singleton.mp new
          exact List.mem_append_right _ (List.mem_singleton_self _)
      · intro lookup found
        exact (sound.lookup lookup found).trans (List.prefix_append _ _)
  | get key =>
      cases executed
      refine ⟨written.elapse _, ⟨sound.computed, ?_⟩, List.prefix_rfl⟩
      intro lookup found
      cases found
      exact List.prefix_rfl
  | set key text ex =>
      cases executed
      split
      · exact ⟨(written.elapse _).write key text ex, sound.later (List.prefix_append _ _),
          List.prefix_append _ _⟩
      · exact ⟨written.elapse _, sound.later List.prefix_rfl, List.prefix_rfl⟩

variable (functions) in
def discipline : Discipline (redis functions) where
  invariant := World.Written
  sound := Session.Sound
  compatible := fun _ _ => True
  rely := fun _ before after => before.history <+: after.history
  rely_refl := fun _ _ => List.prefix_rfl
  rely_trans := fun _ _ _ _ first second => first.trans second
  compatible_symm := fun _ _ _ => trivial
  sound_stable := fun _ _ _ sound grows => sound.later grows
  execute_done := by
    intro statement answer others before session response after updated executed written sound _
    obtain ⟨writtenAfter, soundAfter, grows⟩ := execute_done executed written sound
    exact ⟨writtenAfter, soundAfter, fun _ _ => ⟨trivial, grows⟩⟩
  close_sound := fun _ _ sound => sound
  close_compatible := fun _ _ _ => trivial

/-! The conduct of one call. -/

section Conduct

variable {sha256 : Sha256} {calls : List (Call Function)} {call : Call Function}
variable {session : Session functions} {world : World functions}

variable (sha256 calls call) in
/-- A call writes what the wrapped function has returned to it. -/
def Requires (statement : Statement Function) (session : Session functions) (_ : World functions) : Prop :=
  match statement with
  | .set key text ex => call ∈ calls ∧ ∃ model, ⟨call, .ok model⟩ ∈ session.computed ∧
      key = cacheKey functions sha256 call ∧ text = (functions call.function).modelDumpJson model ∧
      ex = (functions call.function).ttlSeconds
  | .func _ | .get _ => True

variable (sha256 call) in
/-- What the call has read in the cache. -/
structure Hit (session : Session functions) (lookup : Lookup functions) (entry : Entry) : Prop where
  found : session.lookup = some lookup
  written : Event.written (cacheKey functions sha256 call) entry ∈ lookup.history
  past : entry.time ≤ lookup.clock
  live : entry.Live lookup.clock

variable (sha256 call) in
def Returns (model : (functions call.function).Model) (session : Session functions) : Prop :=
  ⟨call, .ok model⟩ ∈ session.computed ∨ ∃ lookup entry, Hit sha256 call session lookup entry ∧
    (functions call.function).modelValidateJson entry.text = some model

variable (sha256 call) in
def Raises (failure : Failure Error) (session : Session functions) : Prop :=
  (∃ error, failure = .raised error ∧ ⟨call, .error error⟩ ∈ session.computed) ∨
    failure = .validationError ∧ ∃ lookup entry, Hit sha256 call session lookup entry ∧
      (functions call.function).modelValidateJson entry.text = none

variable (sha256 calls call) in
abbrev Conducted (program : Awaiting functions (functions call.function).Model)
    (session : Session functions) (world : World functions) : Prop :=
  program.Verified (discipline functions) Guard.unrestricted (Requires sha256 calls call)
    (fun model session _ => Returns sha256 call model session) (Raises sha256 call) session world

theorem func_verified {returns : (functions call.function).Model → Session functions →
    World functions → Prop}
    (returned : ∀ model updated after, ⟨call, .ok model⟩ ∈ updated.computed → returns model updated after) :
    (func functions call).Verified (discipline functions) Guard.unrestricted (Requires sha256 calls call)
      returns (Raises sha256 call) session world := by
  intro current _ _ _
  refine ⟨trivial, fun answer others _ => ⟨fun error raised => (by cases raised), ?_⟩⟩
  intro response after updated executed _ _
  cases executed
  have last : ∀ computed, computed ∈ session.computed ++ [computed] :=
    fun computed => List.mem_append_right _ (List.mem_singleton_self _)
  cases result : (functions call.function).body answer.data call.kwargs with
  | ok model => exact returned model _ _ (last _)
  | error error => exact .inl ⟨error, rfl, last _⟩

theorem populate_conducted (listed : call ∈ calls) :
    Conducted sha256 calls call (populate functions sha256 call) session world := by
  apply Program.verified_bind
  apply func_verified
  intro model updated after computed current _ _ _
  refine ⟨⟨listed, model, computed, rfl, rfl, rfl⟩,
    fun answer others _ => ⟨fun error raised => (by cases raised), ?_⟩⟩
  intro response after final executed _ _
  cases executed
  exact .inl computed

theorem validated_conducted {lookup : Lookup functions} {entry : Entry}
    (hit : Hit sha256 call session lookup entry) :
    Conducted sha256 calls call (validated functions call entry.text) session world := by
  cases restored : (functions call.function).modelValidateJson entry.text with
  | some model =>
      rw [Conducted, validated, restored]
      exact .inr ⟨lookup, entry, hit, restored⟩
  | none =>
      rw [Conducted, validated, restored]
      exact .inr ⟨rfl, lookup, entry, hit, restored⟩

theorem World.read_eq_some {world : World functions} {key text : String} :
    world.read key = some text ↔
      ∃ entry, world.entries key = some entry ∧ entry.Live world.clock ∧ entry.text = text := by
  rw [World.read]
  cases found : world.entries key with
  | none => simp
  | some entry => simp

theorem wrapper_conducted (listed : call ∈ calls) :
    Conducted sha256 calls call (wrapper functions sha256 call) session world := by
  rw [Conducted, wrapper]
  split
  · intro current _ written _
    refine ⟨trivial, fun answer others _ => ⟨fun error raised => (by cases raised), ?_⟩⟩
    intro response after updated executed _ _
    cases executed
    by_cases connected : answer.connection = .available
    · rw [if_pos connected]
      cases found : (current.elapse answer.elapsed).read (cacheKey functions sha256 call) with
      | none => exact populate_conducted listed
      | some cached =>
          obtain ⟨entry, entered, live, rfl⟩ := World.read_eq_some.mp found
          obtain ⟨member, past⟩ := World.Written.elapse written answer.elapsed _ _ entered
          exact validated_conducted ⟨rfl, member, past, live⟩
    · rw [if_neg connected]
      exact func_verified (fun model updated after computed => .inl computed)
  · exact func_verified (fun model updated after computed => .inl computed)

end Conduct

/-! Every run. -/

section Runs

variable {sha256 : Sha256} {calls : List (Call Function)} {history : List (Event functions)}

variable (sha256 calls) in
/-- What the wrapped function of a call returned, written for a caller. -/
def Source (earlier : List (Event functions)) (key : String) (entry : Entry) : Prop :=
  ∃ call ∈ calls, ∃ model, .computed ⟨call, .ok model⟩ ∈ earlier ∧
    key = cacheKey functions sha256 call ∧ entry.text = (functions call.function).modelDumpJson model ∧
    entry.ex = (functions call.function).ttlSeconds

variable (sha256 calls) in
/-- Every write of the cache has its source before it. -/
def Sourced (history : List (Event functions)) : Prop :=
  ∀ earlier key entry later, history = earlier ++ .written key entry :: later →
    Source sha256 calls earlier key entry

theorem Sourced.append {event : Event functions} (sourced : Sourced sha256 calls history)
    (source : ∀ key entry, event = .written key entry → Source sha256 calls history key entry) :
    Sourced sha256 calls (history ++ [event]) := by
  intro earlier key entry later split
  rcases List.eq_nil_or_concat later with rfl | ⟨inner, last, rfl⟩
  · obtain ⟨rfl, same⟩ := List.append_inj' split rfl
    exact source key entry (List.singleton_inj.mp same)
  · have longer : history ++ [event] = (earlier ++ .written key entry :: inner) ++ [last] := by
      rw [split]
      simp
    obtain ⟨rfl, _⟩ := List.append_inj' longer rfl
    exact sourced earlier key entry inner rfl

theorem Sourced.of_prefix {longer : List (Event functions)} (sourced : Sourced sha256 calls longer)
    (grows : history <+: longer) : Sourced sha256 calls history := by
  intro earlier key entry later split
  obtain ⟨rest, rfl⟩ := grows
  apply sourced earlier key entry (later ++ rest)
  rw [split, List.append_assoc]
  rfl

theorem Sourced.execute {statement : Statement Function} {answer : Answer Data} {call : Call Function}
    {others : List (Session functions)} {before after : World functions}
    {session updated : Session functions} {response : statement.Response functions}
    (executed : execute functions statement answer others before session = .done response after updated)
    (required : Requires sha256 calls call statement session before) (sound : session.Sound before)
    (sourced : Sourced sha256 calls before.history) : Sourced sha256 calls after.history := by
  cases statement with
  | func other =>
      cases executed
      apply sourced.append
      intro key entry same
      cases same
  | get key =>
      cases executed
      exact sourced
  | set key text ex =>
      cases executed
      obtain ⟨listed, model, computed, same, dumped, lives⟩ := required
      split
      · apply sourced.append
        intro name entry written
        cases written
        exact ⟨call, listed, model, sound.computed _ computed, same, dumped, lives⟩
      · exact sourced

variable (sha256) in
def Ensures (call : Call Function) (session : Session functions) :
    Except (Failure Error) (Result functions) → Prop
  | .ok result => ∃ model, result = ⟨call.function, model⟩ ∧ Returns sha256 call model session
  | .error failure => Raises sha256 call failure session

theorem serving_verified :
    System.Verified (discipline functions) Guard.unrestricted (Requires sha256 calls)
      (fun call result session => Ensures sha256 call session result) (serving functions sha256 calls) := by
  apply System.start_verified
  · intro key entry found
    cases found
  · exact ⟨fun computed member => (by cases member), fun lookup found => (by cases found)⟩
  · exact fun _ _ _ _ => trivial
  · intro call listed
    apply Program.verified_bind
    apply Program.verified_mono (wrapper_conducted listed)
    intro model session world returns
    exact ⟨model, rfl, returns⟩

variable {system : Serving functions}

theorem serving_sourced
    (reached : Reachable (redis functions) Guard.unrestricted (serving functions sha256 calls) system) :
    System.Verified (discipline functions) Guard.unrestricted (Requires sha256 calls)
      (fun call result session => Ensures sha256 call session result) system ∧
      Sourced sha256 calls system.shared.history := by
  refine serving_verified.invariant (fun system => Sourced sha256 calls system.shared.history)
    ?_ ?_ ?_ reached
  · intro earlier key entry later split
    have empty : [] = earlier ++ .written key entry :: later := split
    simp at empty
  · intro system index answer call statement next session error _ sourced _ _
    exact sourced
  · intro system index answer call statement next session response shared updated turn sourced executed _
    exact sourced.execute executed turn.required (turn.verified.sound index _ turn.found)

/-- No key of one function can be a key of another. -/
structure Apart (functions : Function → CachedFunction Data Error) : Prop where
  distinct : ∀ first second, (functions first).keyPrefix = (functions second).keyPrefix → first = second
  unextended : ∀ first second digits, IsDigest digits →
    (functions first).keyPrefix.toList ≠ (functions second).keyPrefix.toList ++ ':' :: digits

/-- The truncated digest is injective on the texts that these calls hash. -/
def Sha256.Separates (sha256 : Sha256) (calls : List (Call Function)) : Prop :=
  ∀ first ∈ calls, ∀ second ∈ calls, first.kwargs.relevant ≠ [] → second.kwargs.relevant ≠ [] →
    sha256.digest first.kwargs.serialized = sha256.digest second.kwargs.serialized →
      first.kwargs.serialized = second.kwargs.serialized

theorem agree_of_cacheKey {first second : Call Function} (apart : Apart functions)
    (separates : sha256.Separates calls) (listed : first ∈ calls) (listedToo : second ∈ calls)
    (same : cacheKey functions sha256 first = cacheKey functions sha256 second) :
    first.function = second.function ∧ first.kwargs.Agree second.kwargs := by
  obtain ⟨prefixes, agree⟩ := agree_of_key (apart.unextended _ _) (apart.unextended _ _)
    (separates first listed second listedToo) same
  exact ⟨apart.distinct _ _ prefixes, agree⟩

variable (sha256) in
/-- Before the read of the cache, the function had returned this for equal arguments, and
the write of it was less than the time to live ago. -/
def ReturnedBefore (call : Call Function) (model : (functions call.function).Model)
    (lookup : Lookup functions) : Prop :=
  ∃ kwargs earlier entry later, kwargs.Agree call.kwargs ∧
    lookup.history = earlier ++
      .written (cacheKey functions sha256 ⟨call.function, kwargs⟩) entry :: later ∧
    .computed ⟨⟨call.function, kwargs⟩, .ok model⟩ ∈ earlier ∧
    entry.text = (functions call.function).modelDumpJson model ∧ entry.time ≤ lookup.clock ∧
    (lookup.clock : Int) < entry.time + 1000 * (functions call.function).ttlSeconds

/-- What a hit reads is restored to what a function returned before. -/
theorem Hit.returnedBefore {call : Call Function} {session : Session functions}
    {lookup : Lookup functions} {entry : Entry} (hit : Hit sha256 call session lookup entry)
    (apart : Apart functions) (separates : sha256.Separates calls) (listed : call ∈ calls)
    (sourced : Sourced sha256 calls lookup.history) :
    ∃ model, (functions call.function).modelValidateJson entry.text = some model ∧
      ReturnedBefore sha256 call model lookup := by
  obtain ⟨earlier, later, split⟩ := List.append_of_mem hit.written
  obtain ⟨⟨function, kwargs⟩, listedToo, model, computed, same, dumped, lives⟩ :=
    sourced earlier _ entry later split
  obtain ⟨function_eq, agree⟩ := agree_of_cacheKey apart separates listedToo listed same.symm
  cases function_eq
  refine ⟨model, dumped ▸ (functions call.function).restores model, kwargs, earlier, entry, later, agree,
    same ▸ split, computed, dumped, hit.past, lives ▸ hit.live⟩

/-- A call raises only what the wrapped function raised to it. What it returns the wrapped
function returned to it, or to an earlier call with equal arguments whose write of the
cache was less than the time to live ago. -/
theorem cache_transparent (apart : Apart functions) (separates : sha256.Separates calls)
    (reached : Reachable (redis functions) Guard.unrestricted (serving functions sha256 calls) system) :
    ∀ thread ∈ system.threads,
      (∀ failure, thread.program = .raise failure →
        ∃ error, failure = .raised error ∧ ⟨thread.label, .error error⟩ ∈ thread.session.computed) ∧
      ∀ result, thread.program = .ret result → ∃ model, result = ⟨thread.label.function, model⟩ ∧
        (⟨thread.label, .ok model⟩ ∈ thread.session.computed ∨
          ∃ lookup, thread.session.lookup = some lookup ∧ lookup.history <+: system.shared.history ∧
            ReturnedBefore sha256 thread.label model lookup) := by
  intro thread member
  obtain ⟨index, found⟩ := List.mem_iff_getElem?.mp member
  have labels := reached.labels
  have listed : thread.label ∈ calls := by
    have label := List.mem_map_of_mem (f := (·.label)) member
    rw [labels] at label
    simpa [System.start] using label
  obtain ⟨verified, sourced⟩ := serving_sourced reached
  have sound : thread.session.Sound system.shared := verified.sound index thread found
  have returned : ∀ {lookup entry}, Hit sha256 thread.label thread.session lookup entry →
      ∃ model, (functions thread.label.function).modelValidateJson entry.text = some model ∧
        ReturnedBefore sha256 thread.label model lookup := by
    intro lookup entry hit
    exact hit.returnedBefore apart separates listed (sourced.of_prefix (sound.lookup lookup hit.found))
  have ensured := verified.threads index thread found
  rw [Thread.Verified] at ensured
  constructor
  · intro failure raised
    rw [raised] at ensured
    rcases ensured with ⟨error, same, computed⟩ | ⟨_, lookup, entry, hit, unreadable⟩
    · exact ⟨error, same, computed⟩
    · obtain ⟨model, restored, _⟩ := returned hit
      rw [unreadable] at restored
      cases restored
  · intro result ended
    rw [ended] at ensured
    obtain ⟨model, same, computed | ⟨lookup, entry, hit, validated⟩⟩ := ensured
    · exact ⟨model, same, .inl computed⟩
    · obtain ⟨other, restored, before⟩ := returned hit
      rw [validated, Option.some.injEq] at restored
      subst restored
      exact ⟨model, same, .inr ⟨lookup, hit.found, sound.lookup lookup hit.found, before⟩⟩

end Runs

/-! The endpoints of `reports.py`. -/

inductive ReportEndpoint where
  | inventorySummary
  | valuation
deriving DecidableEq

def ReportEndpoint.keyPrefix : ReportEndpoint → String
  | .inventorySummary => "reports:inventory-summary"
  | .valuation => "reports:valuation"

/-- `_REPORT_CACHE_TTL_SECONDS`. -/
def REPORT_CACHE_TTL_SECONDS : Int := 60

theorem ReportEndpoint.apart {functions : ReportEndpoint → CachedFunction Data Error}
    (prefixes : ∀ endpoint, (functions endpoint).keyPrefix = endpoint.keyPrefix) : Apart functions where
  distinct := by
    intro first second same
    rw [prefixes, prefixes] at same
    cases first <;> cases second <;> first | rfl | exact absurd same (by decide)
  unextended := by
    intro first second digits digest same
    have lengths := congrArg List.length same
    rw [prefixes, prefixes, List.length_append, List.length_cons, digest.1] at lengths
    cases first <;> cases second <;> exact absurd lengths (by decide)

/-! A run whose second call is answered from the cache, after the data has changed. -/

def Sample.kwargs : Keywords where
  items := [("limit", .scalar (.integer 10)), ("db", .injected 0), ("redis", .injected 1)]
  distinct := by decide
  scalars := by simp [EXCLUDED_KWARGS]
  client := by simp

def Sample.sha256 : Sha256 where
  hexdigest text :=
    if text = "\x7b\"limit\": 10\x7d" then
      "7d0587b5acc48e3a3c05d8b341d59a3ff0ba81cc1ce23e1dabe741c0916b5253".toList
    else List.replicate 64 '0'
  length := by
    intro text
    split <;> decide
  hexadecimal := by
    intro text
    split
    · exact List.all_eq_true.mp (by decide)
    · exact List.all_eq_true.mp (by decide)

def Sample.report (endpoint : ReportEndpoint) : CachedFunction Bool Unit where
  keyPrefix := endpoint.keyPrefix
  ttlSeconds := REPORT_CACHE_TTL_SECONDS
  Model := Bool
  body := fun data _ => .ok data
  modelDumpJson := fun stocked => if stocked then "\x7b\"stocked\":true\x7d" else "\x7b\"stocked\":false\x7d"
  modelValidateJson := fun text =>
    if text = "\x7b\"stocked\":true\x7d" then some true
    else if text = "\x7b\"stocked\":false\x7d" then some false
    else none
  restores := by decide

def Sample.calls : List (Call ReportEndpoint) :=
  [⟨.inventorySummary, Sample.kwargs⟩, ⟨.inventorySummary, Sample.kwargs⟩]

/-- A miss at the start, and a hit 59 seconds after the write. -/
def Sample.moves : List (Nat × Answer Bool) :=
  [(0, ⟨0, true, .available⟩), (0, ⟨5, true, .available⟩), (0, ⟨5, true, .available⟩),
    (1, ⟨59000, false, .available⟩)]

def Sample.served : Option (Serving Sample.report) :=
  (serving Sample.report Sample.sha256 Sample.calls).schedule (redis Sample.report) Sample.moves

/-- What a call answers, if it did not compute it. -/
def Sample.cached (thread : Running Sample.report) : Option Bool :=
  match thread.program, thread.session.computed with
  | .ret ⟨_, stocked⟩, [] => some stocked
  | _, _ => none

theorem Sample.cached_eq_some {thread : Running Sample.report} {stocked : Bool}
    (cached : Sample.cached thread = some stocked) :
    ∃ function, thread.program = .ret ⟨function, stocked⟩ ∧ thread.session.computed = [] := by
  unfold Sample.cached at cached
  split at cached
  · next function result ended uncomputed =>
      cases cached
      exact ⟨function, ended, uncomputed⟩
  · cases cached

theorem Sample.served_cached : Sample.served.map (fun system => system.threads.map Sample.cached) =
    some [none, some true] := by decide

theorem Sample.calls_relevant : ∀ first ∈ Sample.calls, ∀ second ∈ Sample.calls,
    first.kwargs.serialized = second.kwargs.serialized := by
  intro first member second memberToo
  simp only [Sample.calls, List.mem_cons, List.not_mem_nil, or_false, or_self] at member memberToo
  rw [member, memberToo]

theorem cache_transparent_stale : ∃ system, Sample.served = some system ∧
    ∃ thread ∈ system.threads, thread.session.computed = [] ∧
      thread.program = .ret ⟨thread.label.function, true⟩ ∧
      ∃ lookup, thread.session.lookup = some lookup ∧ lookup.history <+: system.shared.history ∧
        ReturnedBefore Sample.sha256 thread.label true lookup := by
  obtain ⟨system, ran, cached⟩ := Option.map_eq_some_iff.mp Sample.served_cached
  have hit : some true ∈ system.threads.map Sample.cached := by
    rw [cached]
    exact List.mem_cons_of_mem _ (List.mem_singleton_self _)
  obtain ⟨thread, member, answered⟩ := List.mem_map.mp hit
  obtain ⟨function, ended, uncomputed⟩ := Sample.cached_eq_some answered
  obtain ⟨model, same, computed | found⟩ := (cache_transparent (ReportEndpoint.apart fun _ => rfl)
    (fun first member second memberToo _ _ _ => Sample.calls_relevant first member second memberToo)
    (System.schedule_reachable .refl ran) thread member).2 _ ended
  · rw [uncomputed] at computed
    cases computed
  · cases same
    exact ⟨system, ran, thread, member, uncomputed, ended, found⟩

end InventoryManagement.Cache
