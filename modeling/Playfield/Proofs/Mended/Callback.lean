import Playfield.Proofs.Hushed

/-!
# Callbacks that are mended

A callback that fails without the board being at fault can be mended: it does what it did before,
and then carries on instead of failing. Two modes are twins if they differ at most in that runs of
the callbacks of the second are mended. The second mode may remember more than the first, to know
which of its runs to mend; `M` relates what the two remember, and `K` the kinds of modes they ask
for. On scenes that are alike, the runs of twins leave scenes that are alike.
-/
namespace Playfield

/-- How a run ends that is mended: it carries on instead of failing, unless the board failed. -/
def Outcome.mended : Outcome HandlerError Verdict → Outcome HandlerError Verdict
  | .ok verdict => .ok verdict
  | .error (.board f) => .error (.board f)
  | .error _ => .ok .carryOn
  | .panic _ => .ok .carryOn

/-- The endings of a run and of the same run that may be mended. -/
inductive Outcome.MendedTo :
    Outcome HandlerError Verdict → Outcome HandlerError Verdict → Prop where
  | same (o : Outcome HandlerError Verdict) : MendedTo o o
  | error {e : HandlerError} (harmless : ∀ f, e ≠ .board f) : MendedTo (.error e) (.ok .carryOn)
  | panic (message : String) : MendedTo (.panic message) (.ok .carryOn)

/-- Only failures for which the board is not at fault are mended. -/
theorem Outcome.faultIn?_mended (o : Outcome HandlerError Verdict) :
    HandlerError.faultIn? o.mended = HandlerError.faultIn? o := by
  cases o with
  | ok verdict => rfl
  | panic message => rfl
  | error e => cases e <;> rfl

theorem Outcome.mendedTo_mended (o : Outcome HandlerError Verdict) : o.MendedTo o.mended := by
  cases o with
  | ok verdict => exact .same _
  | panic message => exact .panic message
  | error e =>
    cases e with
    | board f => exact .same _
    | unknownDriver name => exact .error fun f h => by cases h
    | failed reason => exact .error fun f h => by cases h

/-- The results of a run and of the same run that may be mended. -/
inductive FaultReason.Spared : Except FaultReason Verdict → Except FaultReason Verdict → Prop where
  | same (r : Except FaultReason Verdict) : Spared r r
  | mended {reason : FaultReason} (harmless : reason.boardFault? = none) :
    Spared (.error reason) (.ok .carryOn)

theorem Outcome.MendedTo.spared {o o' : Outcome HandlerError Verdict} (h : o.MendedTo o') :
    FaultReason.Spared (FaultReason.ofOutcome o) (FaultReason.ofOutcome o') := by
  cases h with
  | same => exact .same _
  | @error e harmless =>
    refine .mended ?_
    cases e with
    | board f => exact absurd rfl (harmless f)
    | unknownDriver name => rfl
    | failed reason => rfl
  | panic message => exact .mended rfl

/-- The same request, up to the kind of mode asked for. -/
inductive Request.Alike {κ ι : Type} (K : κ → ι → Prop) : Request κ → Request ι → Prop where
  | addMode (id : ModeId) {kind : κ} {kind' : ι} (kinds : K kind kind') :
    Alike K (.addMode id kind) (.addMode id kind')
  | removeMode (id : ModeId) : Alike K (.removeMode id) (.removeMode id)
  | game (request : GameRequest) : Alike K (.game request) (.game request)
  | flippers (enable : Bool) : Alike K (.flippers enable) (.flippers enable)

variable {σ τ κ ι : Type} {M : σ → τ → Prop} {K : κ → ι → Prop}

/-! ### Scenes -/

/-- Apart from remarks on errors the scenes are the same, up to the kinds of modes asked for. -/
structure Scene.Alike (K : κ → ι → Prop) (s : Scene κ) (t : Scene ι) : Prop where
  cabinet : s.cabinet.Alike t.cabinet
  now : s.now = t.now
  running : s.running = t.running
  game : s.game = t.game
  flippers : s.flippers = t.flippers
  requests : List.Forall₂ (Request.Alike K) s.requests t.requests

namespace Scene
variable {s : Scene κ} {t : Scene ι}

theorem isEmpty_requests (h : s.Alike K t) : s.requests.isEmpty = t.requests.isEmpty := by
  rw [Bool.eq_iff_iff, List.isEmpty_iff_length_eq_zero, List.isEmpty_iff_length_eq_zero,
    h.requests.length_eq]

namespace Alike

theorem withCabinet (h : s.Alike K t) {c d : Cabinet} (hc : c.Alike d) :
    Alike K { s with cabinet := c } { t with cabinet := d } :=
  ⟨hc, h.now, h.running, h.game, h.flippers, h.requests⟩

theorem withBench (h : s.Alike K t) {b c : Bench} (hb : b.Alike c) :
    Alike K { s with cabinet := { s.cabinet with bench := b } }
      { t with cabinet := { t.cabinet with bench := c } } :=
  h.withCabinet (h.cabinet.withBench hb)

theorem withRunning (h : s.Alike K t) {p q : Option ModeId} (same : p = q) :
    Alike K { s with running := p } { t with running := q } :=
  ⟨h.cabinet, h.now, same, h.game, h.flippers, h.requests⟩

theorem withGame (h : s.Alike K t) {p q : GameStatus} (same : p = q) :
    Alike K { s with game := p } { t with game := q } :=
  ⟨h.cabinet, h.now, h.running, same, h.flippers, h.requests⟩

theorem withFlippers (h : s.Alike K t) (enable : Bool) :
    Alike K { s with flippers := enable } { t with flippers := enable } :=
  ⟨h.cabinet, h.now, h.running, h.game, rfl, h.requests⟩

theorem withRequests (h : s.Alike K t) {p : List (Request κ)} {q : List (Request ι)}
    (hpq : List.Forall₂ (Request.Alike K) p q) :
    Alike K { s with requests := p } { t with requests := q } :=
  ⟨h.cabinet, h.now, h.running, h.game, h.flippers, hpq⟩

theorem remark (h : s.Alike K t) (severity : Severity) (text : String) :
    (s.remark severity text).Alike K (t.remark severity text) :=
  h.withBench (h.cabinet.bench.remark severity text)

/-- A remark on an error may be missing. -/
theorem remark_error (h : s.Alike K t) (text : String) : (s.remark .error text).Alike K t :=
  h.withBench (h.cabinet.bench.remark_error text)

theorem begin (h : s.Alike K t) (site : CallbackSite) :
    (s.begin site).Alike K (t.begin site) := by
  have hglimpse : (⟨s.now, s.running, s.game, s.flippers⟩ : Glimpse) =
      ⟨t.now, t.running, t.game, t.flippers⟩ := by
    rw [h.now, h.running, h.game, h.flippers]
  refine h.withBench ?_
  rw [hglimpse]
  exact h.cabinet.bench.enter _

theorem finish (h : s.Alike K t) {o o' : Outcome HandlerError Verdict}
    (same : HandlerError.faultIn? o' = HandlerError.faultIn? o) :
    (s.finish o).Alike K (t.finish o') := by
  refine h.withBench ?_
  rw [same]
  exact h.cabinet.bench.enter _

/-- A callback sees the same. -/
theorem view (h : s.Alike K t) : s.view = t.view := by
  simp only [Scene.view, isEmpty_requests h, h.now, h.running, h.game, h.flippers,
    h.cabinet.switches, h.cabinet.drivers, h.cabinet.ids]

end Alike

variable {ε α : Type}

theorem mirrors_onCabinet {x : Act ε Cabinet α} (hx : x.Mirrors Cabinet.Alike Eq x) :
    (onCabinet x).Mirrors (Alike K) Eq (onCabinet x) :=
  hx.zoom (fun _ _ h => h.cabinet) fun _ _ _ _ h hc => h.withCabinet hc

theorem mirrors_log (severity : Severity) (text : String) :
    (log severity text : Act ε (Scene κ) Unit).Mirrors (Alike K) Eq (log severity text) :=
  mirrors_onCabinet (Cabinet.mirrors_log severity text)

end Scene

/-! ### Callbacks and modes -/

/-- A relation of endings. -/
abbrev EndingRel := Outcome HandlerError Verdict → Outcome HandlerError Verdict → Prop

variable {E : EndingRel}

/-- Two runs led to endings, memories and scenes that are related. -/
structure RunAlike (E : EndingRel) (M : σ → τ → Prop) (K : κ → ι → Prop)
    (p : Outcome HandlerError Verdict × σ × Scene κ)
    (q : Outcome HandlerError Verdict × τ × Scene ι) : Prop where
  ending : E p.1 q.1
  memory : M p.2.1 q.2.1
  scene : p.2.2.Alike K q.2.2

/-- On scenes that are alike the second callback does what the first does, up to their endings. -/
def Callback.Follows (E : EndingRel) (M : σ → τ → Prop) (K : κ → ι → Prop) (c : Callback σ κ)
    (memory : σ) (c' : Callback τ ι) (memory' : τ) : Prop :=
  ∀ ⦃scene scene'⦄, scene.Alike K scene' →
    RunAlike E M K (c.play (memory, scene)) (c'.play (memory', scene'))

namespace Callback.Follows
variable {x : σ} {x' : τ}

theorem mono {E' : EndingRel} {c : Callback σ κ} {c' : Callback τ ι} (h : Follows E M K c x c' x')
    (hE : ∀ o o', E o o' → E' o o') : Follows E' M K c x c' x' := fun _ _ hs =>
  ⟨hE _ _ (h hs).ending, (h hs).memory, (h hs).scene⟩

theorem done (memory : M x x') {o o' : Outcome HandlerError Verdict} (h : E o o')
    (same : HandlerError.faultIn? o' = HandlerError.faultIn? o) :
    Follows E M K (.done o : Callback σ κ) x (.done o' : Callback τ ι) x' :=
  fun _ _ hs => ⟨h, memory, hs.finish same⟩

theorem remember {y : σ} {y' : τ} {c : Callback σ κ} {c' : Callback τ ι}
    (h : Follows E M K c y c' y') :
    Follows E M K (.remember y c) x (.remember y' c') x' :=
  fun _ _ hs => h hs

/-- What the second callback remembers beyond the first changes nothing else. -/
theorem annotate {y' : τ} {c : Callback σ κ} {c' : Callback τ ι} (h : Follows E M K c x c' y') :
    Follows E M K c x (.remember y' c') x' :=
  fun _ _ hs => h hs

theorem look {f : View → Callback σ κ} {g : View → Callback τ ι}
    (h : ∀ v, Follows E M K (f v) x (g v) x') : Follows E M K (.look f) x (.look g) x' := by
  intro scene scene' hs
  simp only [Callback.play, hs.view]
  exact h _ hs

theorem order (o : Order) {f : Outcome DriverError Unit → Callback σ κ}
    {g : Outcome DriverError Unit → Callback τ ι} (h : ∀ a, Follows E M K (f a) x (g a) x') :
    Follows E M K (.order o f) x (.order o g) x' := by
  intro scene scene' hs
  obtain ⟨answer, answer', after, after', hl, hr, hend, hafter⟩ :=
    (Scene.mirrors_onCabinet (K := K) (Cabinet.mirrors_onDrivers
      (DriverBank.mirrors_obey o scene.now))).run hs
  simp only [Callback.play]
  rw [← hs.now, hl, hr]
  cases hend.eq
  exact h answer hafter

theorem ask {r : Request κ} {r' : Request ι} (hr : r.Alike K r') {c : Callback σ κ}
    {c' : Callback τ ι} (h : Follows E M K c x c' x') :
    Follows E M K (.ask r c) x (.ask r' c') x' := fun _ _ hs =>
  h (hs.withRequests (List.rel_append hs.requests (.cons hr .nil)))

theorem issue (tag : Option String) {f : ModeId → Callback σ κ} {g : ModeId → Callback τ ι}
    (h : ∀ id, Follows E M K (f id) x (g id) x') :
    Follows E M K (.issue tag f) x (.issue tag g) x' := by
  intro scene scene' hs
  simp only [Callback.play, hs.cabinet.ids]
  exact h _ (hs.withCabinet (hs.cabinet.withIds rfl))

theorem enqueue (command : Command) {f : Except QueueFull Unit → Callback σ κ}
    {g : Except QueueFull Unit → Callback τ ι} (h : ∀ a, Follows E M K (f a) x (g a) x') :
    Follows E M K (.enqueue command f) x (.enqueue command g) x' := by
  intro scene scene' hs
  obtain ⟨hanswer, hcabinet⟩ := hs.cabinet.enqueue command
  simp only [Callback.play, hanswer]
  exact h _ (hs.withCabinet hcabinet)

theorem act (a : BenchAct) {c : Callback σ κ} {c' : Callback τ ι} (h : Follows E M K c x c' x') :
    Follows E M K (.act a c) x (.act a c') x' :=
  fun _ _ hs => h (hs.withCabinet (hs.cabinet.perform a))

end Callback.Follows

/-- The same mode, but runs of the callbacks of the second may be mended. -/
structure Mode.Twin (M : σ → τ → Prop) (K : κ → ι → Prop) (m : Mode σ κ) (m' : Mode τ ι) :
    Prop where
  id : m.id = m'.id
  name : m.name = m'.name
  priority : m.priority = m'.priority
  memory : M m.memory m'.memory
  table : m.table = m'.table
  handlers : List.Forall₂ (fun h h' => ∀ x x' switch, M x x' →
    Callback.Follows Outcome.MendedTo M K (h x switch) x (h' x' switch) x') m.handlers m'.handlers
  hook : ∀ h x x', M x x' → Callback.Follows Outcome.MendedTo M K (m.hook h x) x (m'.hook h x') x'

namespace Mode
variable {m : Mode σ κ} {m' : Mode τ ι} {scene : Scene κ} {scene' : Scene ι}

/-- A mode and its twin, with scenes that are alike. -/
abbrev TwinIn (M : σ → τ → Prop) (K : κ → ι → Prop) :
    Mode σ κ × Scene κ → Mode τ ι × Scene ι → Prop :=
  Pairwise₂ (Twin M K) (Scene.Alike K)

/-- A run of a callback of a mode goes like that of its twin, but the latter may be mended. -/
def MendedTo (M : σ → τ → Prop) (K : κ → ι → Prop)
    (x : Act HandlerError (Mode σ κ × Scene κ) Verdict)
    (y : Act HandlerError (Mode τ ι × Scene ι) Verdict) : Prop :=
  ∀ ⦃s t⦄, TwinIn M K s t → (x s).1.MendedTo (y t).1 ∧ TwinIn M K (x s).2 (y t).2

theorem Twin.withMemory (h : m.Twin M K m') {x : σ} {x' : τ} (hx : M x x') :
    Twin M K { m with memory := x } { m' with memory := x' } :=
  ⟨h.id, h.name, h.priority, hx, h.table, h.handlers, h.hook⟩

theorem Twin.withId (h : m.Twin M K m') (id : ModeId) :
    Twin M K { m with id } { m' with id } :=
  ⟨rfl, h.name, h.priority, h.memory, h.table, h.handlers, h.hook⟩

theorem Twin.bindings (h : m.Twin M K m') (switch : String) :
    m.bindings switch = m'.bindings switch := by
  rw [Mode.bindings, h.table, Mode.bindings]

theorem mended_play {c : Callback σ κ} {c' : Callback τ ι}
    (hc : Callback.Follows Outcome.MendedTo M K c m.memory c' m'.memory) (hm : m.Twin M K m')
    (hs : scene.Alike K scene') :
    (play c (m, scene)).1.MendedTo (play c' (m', scene')).1 ∧
      TwinIn M K (play c (m, scene)).2 (play c' (m', scene')).2 :=
  ⟨(hc hs).ending, hm.withMemory (hc hs).memory, (hc hs).scene⟩

theorem mended_runHook (hook : ModeHook) :
    MendedTo M K (runHook hook : Act HandlerError (Mode σ κ × Scene κ) Verdict) (runHook hook) := by
  rintro ⟨m, scene⟩ ⟨m', scene'⟩ ⟨hm, hs⟩
  exact mended_play (hm.hook hook _ _ hm.memory) hm hs

theorem mended_handle (binding : Nat) (switch : Switch) :
    MendedTo M K (handle binding switch : Act HandlerError (Mode σ κ × Scene κ) Verdict)
      (handle binding switch) := by
  rintro ⟨m, scene⟩ ⟨m', scene'⟩ ⟨hm, hs⟩
  have hm : m.Twin M K m' := hm
  have hlength := hm.handlers.length_eq
  simp only [handle]
  rcases Nat.lt_or_ge binding m.handlers.length with hbound | hnone
  · have hbound' : binding < m'.handlers.length := hlength ▸ hbound
    rw [List.getElem?_eq_getElem hbound, List.getElem?_eq_getElem hbound']
    exact mended_play (hm.handlers.get hbound hbound' _ _ switch hm.memory) hm hs
  · rw [List.getElem?_eq_none hnone, List.getElem?_eq_none (hlength ▸ hnone), hm.name]
    exact ⟨.same _, hm, hs⟩

/-- Where the guarded runs of twins lead. -/
theorem mended_guarded {x : Act HandlerError (Mode σ κ × Scene κ) Verdict}
    {y : Act HandlerError (Mode τ ι × Scene ι) Verdict} (hxy : MendedTo M K x y)
    (site : CallbackSite) (hm : m.Twin M K m') (hs : scene.Alike K scene') :
    ∃ r r' n n' s s', guarded site x m scene = (r, n, s) ∧ guarded site y m' scene' = (r', n', s') ∧
      FaultReason.Spared r r' ∧ n.Twin M K n' ∧ s.Alike K s' := by
  have hbegun := (hs.withRunning (congrArg some hm.id)).begin site
  obtain ⟨hend, htwin, hafter⟩ := hxy (s := (m, _)) (t := (m', _)) ⟨hm, hbegun⟩
  exact ⟨_, _, _, _, _, _, rfl, rfl, hend.spared, htwin, hafter.withRunning hs.running⟩

end Mode

end Playfield
