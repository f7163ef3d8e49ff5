import Playfield.Proofs.Faults
import Playfield.Proofs.HeldHandlers

/-!
# What is asked for is done in order

The engine carries out requests in rounds. `Engine.Serves` is the plain queue behind the rounds: the
request in front is carried out, what is asked for meanwhile goes to the back, and each request
knows its generation, which is 1 for those asked for first and one more than the generation of the
request during which it was asked for. What is of a later generation than there are rounds is
dropped. The rounds do exactly this (`settleRounds_serves`), and nothing is left over.
-/
namespace Playfield

namespace Engine
variable {σ κ : Type}

/-- The requests of later generations than the given one. A callback sees whether there are any. -/
def later (generation : Nat) (queue : List (Request κ × Nat)) : List (Request κ) :=
  (queue.filter fun entry => generation < entry.2).map Prod.fst

/-- From a queue and a state the requests in front are served one after another until the queue is
empty. The three lists are what is asked for meanwhile, what is served and what is dropped. -/
inductive Serves : List (Request κ × Nat) → Engine σ κ × Scene κ → List (Request κ × Nat) →
    List (Request κ × Nat) → List (Request κ × Nat) → Engine σ κ × Scene κ → Prop where
  | done (s : Engine σ κ × Scene κ) : Serves [] s [] [] [] s
  | serve {r : Request κ} {generation : Nat} {rest asked served dropped : List (Request κ × Nat)}
    {e e' : Engine σ κ} {scene scene' : Scene κ} {new : List (Request κ)}
    {t : Engine σ κ × Scene κ} (within : generation ≤ maxRounds)
    (applied : apply r (e, { scene with requests := later generation rest }) = (.ok (), e', scene'))
    (fresh : scene'.requests = later generation rest ++ new)
    (next : Serves (rest ++ new.map fun q => (q, generation + 1))
      (e', { scene' with requests := [] }) asked served dropped t) :
    Serves ((r, generation) :: rest) (e, scene)
      ((new.map fun q => (q, generation + 1)) ++ asked) ((r, generation) :: served) dropped t
  | drop {r : Request κ} {generation : Nat} {rest asked served dropped : List (Request κ × Nat)}
    {s t : Engine σ κ × Scene κ} (beyond : maxRounds < generation)
    (next : Serves rest s asked served dropped t) :
    Serves ((r, generation) :: rest) s asked served ((r, generation) :: dropped) t

/-- The remark on requests that were dropped, if there are any. -/
def noteDropped (dropped : List (Request κ × Nat)) (scene : Scene κ) : Scene κ :=
  if dropped.isEmpty then scene
  else scene.remark .error
    ("dropping " ++ toString dropped.length ++ " mode request(s) after " ++ toString maxRounds ++
      " rounds")

/-- What was asked for in a state has been done in another: every request was served in the order in
which it was asked for, or dropped for its generation, and nothing is left. -/
structure Settled (s t : Engine σ κ × Scene κ) (asked served dropped : List (Request κ × Nat)) :
    Prop where
  serves : ∃ scene, Serves (s.2.requests.map fun r => (r, 1)) (s.1, { s.2 with requests := [] })
    asked served dropped (t.1, scene) ∧ t.2 = noteDropped dropped scene
  all : served ++ dropped = (s.2.requests.map fun r => (r, 1)) ++ asked
  within : ∀ entry ∈ served, entry.2 ≤ maxRounds
  beyond : ∀ entry ∈ dropped, maxRounds < entry.2
  none_left : t.2.requests = []

theorem later_append (generation : Nat) (rest more : List (Request κ)) :
    later generation ((rest.map fun r => (r, generation)) ++
      more.map fun r => (r, generation + 1)) = more := by
  simp [later, List.filter_append, List.filter_map, Function.comp_def]

/-- Requests of one generation, and behind them those of the next asked for so far. -/
theorem serves_each {generation : Nat} (within : generation ≤ maxRounds)
    (rest more : List (Request κ)) {e e' : Engine σ κ} {scene scene' : Scene κ}
    {asked served dropped : List (Request κ × Nat)}
    {t : Engine σ κ × Scene κ}
    (each : Act.each apply rest (e, { scene with requests := more }) = (.ok (), e', scene'))
    (next : Serves (scene'.requests.map fun r => (r, generation + 1))
      (e', { scene' with requests := [] }) asked served dropped t) :
    ∃ new, scene'.requests = more ++ new ∧
      Serves ((rest.map fun r => (r, generation)) ++ more.map fun r => (r, generation + 1))
        (e, { scene with requests := [] }) ((new.map fun r => (r, generation + 1)) ++ asked)
        ((rest.map fun r => (r, generation)) ++ served) dropped t := by
  induction rest generalizing more e scene with
  | nil =>
    cases each
    exact ⟨[], (List.append_nil _).symm, next⟩
  | cons r rest ih =>
    obtain ⟨_, ⟨e₁, scene₁⟩, hfirst, hrest⟩ := Act.bind_eq_ok each
    obtain ⟨new₁, hnew₁⟩ := (calm_apply r (e, { scene with requests := more })).scene.asked
    rw [hfirst] at hnew₁
    have hnew₁ : scene₁.requests = more ++ new₁ := hnew₁.symm
    have hrest : Act.each apply rest (e₁, { scene₁ with requests := more ++ new₁ }) =
      (.ok (), e', scene') := hnew₁ ▸ hrest
    obtain ⟨new, hnew, hserves⟩ := ih (more ++ new₁) hrest
    refine ⟨new₁ ++ new, by rw [hnew, List.append_assoc], ?_⟩
    have hlater := later_append generation rest more
    have happlied : apply r (e, { scene with
        requests := later generation
          ((rest.map fun r => (r, generation)) ++ more.map fun r => (r, generation + 1)) }) =
        (.ok (), e₁, scene₁) := by
      rw [hlater]
      exact hfirst
    rw [List.map_append, ← List.append_assoc] at hserves
    rw [List.map_append, List.append_assoc, List.map_cons, List.cons_append, List.cons_append]
    exact Serves.serve within happlied (hlater.symm ▸ hnew₁) hserves

theorem serves_drop {generation : Nat} (beyond : maxRounds < generation) (rest : List (Request κ))
    (s : Engine σ κ × Scene κ) :
    Serves (rest.map fun r => (r, generation)) s [] [] (rest.map fun r => (r, generation)) s := by
  induction rest with
  | nil => exact .done s
  | cons r rest ih => exact .drop beyond ih

theorem settleRounds_zero (e : Engine σ κ) (scene : Scene κ) (generation : Nat) :
    settleRounds 0 (e, scene) = (.ok (), e,
      noteDropped (scene.requests.map fun r => (r, generation)) { scene with requests := [] }) := by
  refine (Act.bind_ok (a := (e, scene)) (t := (e, scene)) ?_).trans ?_
  · rfl
  refine (Act.bind_ok (a := ()) (t := (e, { scene with requests := [] })) ?_).trans ?_
  · rfl
  cases scene.requests with
  | nil => rfl
  | cons r rest =>
    simp only [noteDropped, List.length_map]
    rfl

theorem settleRounds_succ (rounds : Nat) (e : Engine σ κ) (scene : Scene κ) :
    settleRounds (rounds + 1) (e, scene) =
      if scene.requests = [] then (.ok (), e, scene)
      else (Act.each apply scene.requests >>= fun _ => settleRounds rounds)
        (e, { scene with requests := [] }) := by
  refine (Act.bind_ok (a := (e, scene)) (t := (e, scene)) ?_).trans ?_
  · rfl
  refine (Act.bind_ok (a := ()) (t := (e, { scene with requests := [] })) ?_).trans ?_
  · rfl
  cases hreq : scene.requests with
  | nil =>
    have hsame : { scene with requests := [] } = scene := by rw [← hreq]
    rw [if_pos rfl]
    exact congrArg (fun s => (Outcome.ok (), e, s)) hsame
  | cons r rest => rfl

/-- The rounds serve the queue, the ones of a generation after those of the generation before. -/
theorem settleRounds_serves (rounds generation : Nat) (sum : generation + rounds = maxRounds + 1)
    {e e' : Engine σ κ} {scene scene' : Scene κ}
    (h : settleRounds rounds (e, scene) = (.ok (), e', scene')) :
    ∃ asked served dropped last,
      Serves (scene.requests.map fun r => (r, generation)) (e, { scene with requests := [] })
        asked served dropped (e', last) ∧
      scene' = noteDropped dropped last ∧ last.requests = [] ∧
      served ++ dropped = (scene.requests.map fun r => (r, generation)) ++ asked ∧
      (∀ entry ∈ served, entry.2 ≤ maxRounds) ∧ ∀ entry ∈ dropped, maxRounds < entry.2 := by
  induction rounds generalizing generation e scene with
  | zero =>
    have hbeyond : maxRounds < generation := by omega
    rw [settleRounds_zero e scene generation] at h
    cases h
    refine ⟨[], [], _, _, serves_drop hbeyond _ _, rfl, rfl, (List.append_nil _).symm, ?_, ?_⟩
    · simp
    · intro entry hentry
      obtain ⟨r, -, rfl⟩ := List.mem_map.mp hentry
      exact hbeyond
  | succ rounds ih =>
    rw [settleRounds_succ] at h
    split at h
    · rename_i hnone
      cases h
      rw [hnone]
      refine ⟨[], [], [], scene', ?_, rfl, hnone, rfl, by simp, by simp⟩
      have hsame : { scene' with requests := [] } = scene' := by rw [← hnone]
      rw [hsame]
      exact .done _
    · obtain ⟨_, ⟨e₁, scene₁⟩, heach, hrest⟩ := Act.bind_eq_ok h
      obtain ⟨asked, served, dropped, last, hserves, hlast, hempty, hall, hwithin, hbeyond⟩ :=
        ih (generation + 1) (by omega) hrest
      have hg : generation ≤ maxRounds := by omega
      obtain ⟨new, hnew, hfirst⟩ := serves_each hg scene.requests [] heach hserves
      rw [List.nil_append] at hnew
      rw [List.map_nil, List.append_nil] at hfirst
      refine ⟨_, _, dropped, last, hfirst, hlast, hempty, ?_, ?_, hbeyond⟩
      · rw [List.append_assoc, hall, hnew]
      · intro entry hentry
        rcases List.mem_append.mp hentry with hentry | hentry
        · obtain ⟨r, -, rfl⟩ := List.mem_map.mp hentry
          exact hg
        · exact hwithin entry hentry

/-- Doing what was asked for is serving a plain queue to its end. -/
theorem settle_settled {e e' : Engine σ κ} {scene scene' : Scene κ}
    (h : settle (e, scene) = (.ok (), e', scene')) :
    ∃ asked served dropped, Settled (e, scene) (e', scene') asked served dropped := by
  obtain ⟨asked, served, dropped, last, hserves, hlast, hempty, hall, hwithin, hbeyond⟩ :=
    settleRounds_serves maxRounds 1 (Nat.add_comm 1 maxRounds) h
  refine ⟨asked, served, dropped, ⟨last, hserves, hlast⟩, hall, hwithin, hbeyond, ?_⟩
  change scene'.requests = []
  rw [hlast, noteDropped]
  split <;> exact hempty

/-- With nothing asked for there is nothing to do. -/
theorem settle_idle {e : Engine σ κ} {scene : Scene κ} (h : scene.requests = []) :
    settle (e, scene) = (.ok (), e, scene) := by
  rw [settle, maxRounds, settleRounds_succ, if_pos h]

/-! ### What comes first -/

/-- A dispatch up to where its callbacks have run. -/
def walkDown (switch : Switch) : Step σ κ Report := do
  count fun s => { s with dispatches := s.dispatches + 1 }
  let report ← onStack (ModeStack.dispatch switch)
  record report
  return report

theorem dispatch_eq (switch : Switch) : (dispatch switch : Step σ κ Unit) =
    walkDown switch >>= fun report => settle >>= fun _ => .finish report.check := by
  simp only [walkDown, Act.bind_assoc, Act.pure_bind]
  rfl

/-- A tick up to where its callbacks have run. -/
def passOnce : Step σ κ Report := do
  let report ← onStack ModeStack.tick
  record report
  return report

theorem tick_eq : (tick : Step σ κ Unit) =
    passOnce >>= fun report => settle >>= fun _ => .finish report.check := by
  simp only [passOnce, Act.bind_assoc, Act.pure_bind]
  rfl

/-- A frame up to where its callback has run. -/
def frameOnce : Step σ κ Unit := do
  count fun s => { s with frames := s.frames + 1 }
  let (e, _) ← .get
  match e.frameHandler with
  | none => pure ()
  | some handler =>
    inScene fun _ scene => scene.begin .frame
    let outcome ← fun (e, scene) =>
      match (handler.run handler.memory).play (handler.memory, scene) with
      | (o, memory, scene) =>
        (.ok o, { e with frameHandler := some { handler with memory } }, scene)
    match outcome with
    | .ok _ => pure ()
    | .error (.board f) => .fail f
    | .error e => failFrame ("frame handler failed: " ++ e.message)
    | .panic m => failFrame ("frame handler panicked: " ++ m)

theorem frame_eq {e : Engine σ κ} {scene : Scene κ} (h : scene.requests = []) :
    frame (e, scene) = (frameOnce >>= fun _ => settle) (e, scene) := by
  let e₁ : Engine σ κ := { e with stats := { e.stats with frames := e.stats.frames + 1 } }
  rw [frameOnce, Act.bind_assoc]
  refine (Act.bind_ok (a := ()) (t := (e₁, scene)) ?_).trans
    (Eq.trans ?_ (Act.bind_ok (a := ()) (t := (e₁, scene)) ?_).symm)
  · rfl
  · rw [Act.bind_assoc]
    refine (Act.bind_ok (a := (e₁, scene)) (t := (e₁, scene)) ?_).trans
      (Eq.trans ?_ (Act.bind_ok (a := (e₁, scene)) (t := (e₁, scene)) ?_).symm)
    · rfl
    · dsimp only
      cases hf : e₁.frameHandler with
      | none => exact (settle_idle h).symm
      | some handler =>
        dsimp only
        rw [Act.bind_assoc]
        refine congrFun (congrArg (inScene (fun _ scene => scene.begin .frame) >>= ·)
          (funext fun _ => ?_)) (e₁, scene)
        refine Eq.trans ?_ (Act.bind_assoc _ _ _).symm
        refine congrArg (Bind.bind _) (funext fun outcome => ?_)
        cases outcome with
        | ok _ => rfl
        | error cause => cases cause <;> rfl
        | panic message => rfl
    · rfl
  · rfl

end Engine

namespace Machine
variable {σ κ : Type} {α β : Type}

/-- In a scene at a time something happens first, and then everything that was asked for in it is
done. -/
def Settles (now : Span) (opening : Engine.Step σ κ α) (m m' : Machine σ κ) : Prop :=
  ∃ e scene asked served dropped,
    Engine.Settled (opening (m.engine, m.scene now)).2 (e, scene) asked served dropped ∧
    m' = { m with engine := e, cabinet := scene.cabinet }

variable {m m' : Machine σ κ} {now : Span} {opening : Engine.Step σ κ α}

/-- A computation in a fresh scene ends well only if it does so by itself and everything it asked
for could be done. -/
theorem inContext_ok {a : α} (h : inContext now opening m = (.ok a, m')) :
    ∃ e s e' s', opening (m.engine, m.scene now) = (.ok a, e, s) ∧
      Engine.settle (e, s) = (.ok (), e', s') ∧
      m' = { m with engine := e', cabinet := s'.cabinet } := by
  rcases hbody : opening (m.engine, m.scene now) with ⟨value, e, s⟩
  rcases hsettle : Engine.settle (e, s) with ⟨settled, e', s'⟩
  simp only [inContext, hbody] at h
  cases value with
  | panic message => cases h
  | error f =>
    simp only [hsettle] at h
    cases settled <;> cases h
  | ok value =>
    simp only [hsettle] at h
    cases settled with
    | panic message => cases h
    | error f => cases h
    | ok _ =>
      cases h
      exact ⟨e, s, e', s', rfl, hsettle, rfl⟩

theorem settles_inContext {a : α} (h : inContext now opening m = (.ok a, m')) :
    Settles now opening m m' := by
  obtain ⟨e, s, e', s', hopening, hsettle, hm⟩ := inContext_ok h
  obtain ⟨asked, served, dropped, hsettled⟩ := Engine.settle_settled hsettle
  refine ⟨e', s', asked, served, dropped, ?_, hm⟩
  rw [hopening]
  exact hsettled

/-- What was asked for is done within the computation; the second time there is nothing to do. -/
theorem settles_inContext_bind {f : α → Outcome Fault β} {b : β}
    (h : inContext now (opening >>= fun a => Engine.settle >>= fun _ => .finish (f a)) m =
      (.ok b, m')) : Settles now opening m m' := by
  obtain ⟨e, s, e', s', hbody, hagain, hm⟩ := inContext_ok h
  obtain ⟨a, ⟨e₁, s₁⟩, hopening, hrest⟩ := Act.bind_eq_ok hbody
  obtain ⟨_, ⟨e₂, s₂⟩, hsettle, hfinish⟩ := Act.bind_eq_ok hrest
  cases (congrArg Prod.snd hfinish : (e₂, s₂) = (e, s))
  obtain ⟨asked, served, dropped, hsettled⟩ := Engine.settle_settled hsettle
  rw [Engine.settle_idle hsettled.none_left] at hagain
  cases hagain
  refine ⟨_, _, asked, served, dropped, ?_, hm⟩
  rw [hopening]
  exact hsettled

/-- A computation in a fresh scene counts by what it does there only. -/
theorem inContext_congr {body body' : Engine.Step σ κ α}
    (h : body (m.engine, m.scene now) = body' (m.engine, m.scene now)) :
    inContext now body m = inContext now body' m := by
  rw [inContext, inContext, h]

end Machine

namespace Stage
variable {σ κ : Type}

/-- What dealing with an event comes to if it ends well. Only changes of level and frames call
callbacks. -/
def SettlesEvent (e : Event) (now : Span) (m m' : Machine σ κ) : Prop :=
  match e.kind.level? with
  | some closed =>
    match m.cabinet.switches.get? e.value with
    | some old =>
      if old.closed = closed then m'.kept = m.kept
      else
        let switch := SwitchStore.reported old closed now
        (m.noted e.value closed now).Settles now
          (Engine.log .debug (Machine.changeText switch) >>= fun _ => Engine.walkDown switch) m'
    | none => m'.kept = m.kept
  | none => if e.kind = .frameDisplayed then m.Settles now Engine.frameOnce m' else m'.kept = m.kept

/-- What a stage comes to if it ends well. Either no callback begins in it, or its callbacks run in
a scene and what was asked for there is done, before anything else happens. -/
def Settles (m m' : Machine σ κ) : Stage σ κ → Prop
  | .event e now => SettlesEvent e now m m'
  | .tick now => m.Settles now Engine.passOnce m'
  | .join mode now => m.Settles now (Engine.onStack (ModeStack.add mode)) m'
  | .leave id now => m.Settles now (Engine.onStack (ModeStack.remove id)) m'
  | .clear now => m.Settles now (Engine.onStack ModeStack.clear) m'
  | .ask request now => m.Settles now (Engine.apply (.game request)) m'
  | .aside _ => m'.kept = m.kept

variable {m m' : Machine σ κ}

/-- A change of level that is dealt with to the end is a walk whose requests are done. -/
theorem settles_change {number : Nat} {old : Switch} {closed : Bool} {now : Span}
    (found : m.cabinet.switches.get? number = some old) (changed : old.closed ≠ closed)
    (h : Machine.switchChanged number closed now m = (.ok (), m')) :
    let switch := SwitchStore.reported old closed now
    (m.noted number closed now).Settles now
      (Engine.log .debug (Machine.changeText switch) >>= fun _ => Engine.walkDown switch) m' := by
  intro switch
  rw [Machine.switchChanged_change found changed] at h
  refine Machine.settles_inContext_bind (f := Report.check) (b := ()) (Eq.trans ?_ h)
  refine Machine.inContext_congr ?_
  rw [Machine.handDown_eq ((m.noted number closed now).scene now)
    (SwitchStore.get?_report found changed), Engine.dispatch_eq, Act.bind_assoc]

theorem settles_event {e : Event} {now : Span} (h : Machine.handleEvent e now m = (.ok (), m')) :
    SettlesEvent e now m m' := by
  have hm : m' = (Machine.handleEvent e now m).2 := (congrArg Prod.snd h).symm
  simp only [Machine.handleEvent] at h hm
  simp only [SettlesEvent]
  cases hlevel : e.kind.level? with
  | some closed =>
    simp only [hlevel] at h hm ⊢
    cases found : m.cabinet.switches.get? e.value with
    | none =>
      rw [hm]
      exact Machine.kept_switchChanged_unknown found
    | some old =>
      by_cases same : old.closed = closed
      · simp only [same, if_true]
        rw [hm]
        exact Machine.kept_switchChanged_same found same
      · simp only [same, if_false]
        exact settles_change found same h
  | none =>
    simp only [hlevel] at h hm ⊢
    generalize e.kind = kind at h hm ⊢
    cases kind with
    | frameDisplayed =>
      refine Machine.settles_inContext_bind (f := fun _ => .ok ()) (b := ()) (Eq.trans ?_ h)
      refine Machine.inContext_congr (Eq.trans ?_ (Engine.frame_eq rfl).symm)
      exact congrFun (congrArg (Bind.bind Engine.frameOnce)
        (funext fun _ => Act.bind_pure_unit Engine.settle)) (m.engine, m.scene now)
    | _ =>
      rw [hm]
      exact Machine.keeps_log _ _ m

/-- However an aside ends, nothing is asked for in it. -/
theorem kept_of_aside {a : Aside σ κ} {ending : Outcome Fault Unit}
    (h : Stage.act (.aside a) m = (ending, m')) : m'.kept = m.kept := by
  have hkeeps := a.keeps m
  rw [show a.act m = (ending, m') from h] at hkeeps
  exact hkeeps

theorem settles_of_ok {st : Stage σ κ} (h : st.act m = (.ok (), m')) : st.Settles m m' := by
  cases st with
  | event e now => exact settles_event h
  | tick now =>
    refine Machine.settles_inContext_bind (f := Report.check) (b := ()) ?_
    rw [← Engine.tick_eq]
    exact h
  | join mode now => exact Machine.settles_inContext h
  | leave id now =>
    obtain ⟨there, m₁, hcontext, hrest⟩ := Act.bind_eq_ok h
    cases hrest
    exact Machine.settles_inContext hcontext
  | clear now => exact Machine.settles_inContext h
  | ask request now => exact Machine.settles_inContext h
  | aside a => exact kept_of_aside h

end Stage

/-- Every call leads where its stages lead. In each stage that ends well, what its callbacks ask for
is done in the order in which it was asked for, all of it up to generation 64 and nothing beyond,
before the next stage begins. A call ends with the first stage that does not end well. One that
fails has met its fault: a call to the board failed with it, or a callback ended in it. One that
panics has met a panic of the board, or it is a tick with a deadline that does not exist, or it is
an aside, in which nothing is asked for. Of what others do between calls nothing is said. -/
theorem Call.requests_served_in_order {σ κ : Type} (c : Call σ κ) (m : Machine σ κ) :
    c.run m = m.afterStages (c.stages m) ∧
    ∀ before st after, c.stages m = before ++ st :: after →
      let top := m.afterStages before
      match st.act top with
      | (.ok _, m') => st.Settles top m'
      | (.error f, m') => after = [] ∧
          (top.cabinet.bench.MeetsFault f m'.cabinet.bench ∨ ∃ a, c = .outside a)
      | (.panic _, m') => after = [] ∧
          (top.cabinet.bench.MeetsPanic m'.cabinet.bench ∨
            (∃ now, st = .tick now ∧
              top.engine.stack.holds.Overflows top.cabinet.switches) ∨
            ∃ a, st = .aside a ∧ m'.kept = top.kept) := by
  refine ⟨c.run_eq m, fun before st after hsplit => ?_⟩
  have hlast : after = [] ∨ ∃ m', st.act (m.afterStages before) = (.ok (), m') :=
    Act.tried_split hsplit
  have hplanned : st ∈ c.plan m :=
    (Act.tried_prefix (c.plan m) m).subset
      (show st ∈ c.stages m from hsplit ▸ List.mem_append_right _ (List.mem_cons_self ..))
  dsimp only
  split <;> rename_i hact
  · exact Stage.settles_of_ok hact
  · refine ⟨hlast.resolve_right fun ⟨_, hok⟩ => (nomatch hact.symm.trans hok), ?_⟩
    by_cases inside : ∃ a, c = .outside a
    · exact .inr inside
    · exact .inl ((c.tells_plan (not_exists.mp inside) m st hplanned).met hact rfl)
  · refine ⟨hlast.resolve_right fun ⟨_, hok⟩ => (nomatch hact.symm.trans hok), ?_⟩
    refine (Stage.panics hact).imp_right (Or.imp_right ?_)
    rintro ⟨a, rfl⟩
    exact ⟨a, rfl, Stage.kept_of_aside hact⟩

/-! ### What a tick can lose -/

/-- The entry tells neither of a fault of the board nor of a call to it that panicked. -/
def Entry.wentWell : Entry → Bool
  | .call _ .panicked => false
  | .call _ (.fault _) => false
  | .ended fault => fault.isNone
  | _ => true

/-- If a deadline does not exist, a pass of the run loop ends with its tick. -/
theorem Call.stages_of_overflow {σ κ : Type} {m polled : Machine σ κ}
    (nothing : Machine.onCabinet
      (Cabinet.onBench (Bench.poll m.settings.includeFrameEvents)) m = (.ok [], polled))
    (overflow : polled.engine.stack.holds.Overflows polled.cabinet.switches) :
    Call.step.stages m = [.aside .poll, .tick polled.now] := by
  have hpoll : Stage.act (.aside .poll) m = (.ok (), polled) := Act.bind_ok nothing
  have htick (m' : Machine σ κ) : Stage.act (.tick polled.now) polled ≠ (.ok (), m') := by
    intro h
    obtain ⟨e, s, _, _, hbody, -, -⟩ := Machine.inContext_ok h
    obtain ⟨report, t, hstack, -⟩ := Act.bind_eq_ok hbody
    obtain ⟨message, hpanic⟩ := (ModeStack.tick_panics_iff (ε := Fault) polled.engine.stack
      (polled.scene polled.now)).mpr overflow
    have hok : (ModeStack.tick (ε := Fault) (polled.engine.stack, polled.scene polled.now)).1 =
      .ok report := congrArg Prod.fst hstack
    exact nomatch hpanic.symm.trans hok
  simp only [stages, plan, nothing, List.map_nil, List.cons_append, List.nil_append]
  rw [Act.tried_ok hpoll, Act.tried_failed htick]

/-- A tick of a machine up to where its callbacks have run. -/
def Machine.ticked {σ κ : Type} (m : Machine σ κ) (now : Span) : Engine σ κ × Scene κ :=
  (Engine.passOnce (m.engine, m.scene now)).2

/-- Where a request leads that is the only one. -/
def Engine.afterRequest {σ κ : Type} (r : Request κ) (s : Engine σ κ × Scene κ) :
    Engine σ κ × Scene κ := (apply r (s.1, { s.2 with requests := [] })).2

/-- A tick that settles a single request, and that request asks for nothing, leads where the request
leads. -/
theorem Stage.settles_single {σ κ : Type} {m m' : Machine σ κ} {now : Span} {r : Request κ}
    (h : (Stage.tick now).Settles m m') (asked : (m.ticked now).2.requests = [r])
    (nothing : (Engine.afterRequest r (m.ticked now)).2.requests = []) :
    m'.engine = (Engine.afterRequest r (m.ticked now)).1 := by
  obtain ⟨e, scene, _, _, _, hsettled, rfl⟩ := h
  obtain ⟨last, hserves, -⟩ := hsettled.serves
  rw [show (Engine.passOnce (m.engine, m.scene now)).2 = m.ticked now from rfl, asked] at hserves
  cases hserves with
  | serve within applied fresh next =>
    have hafter : Engine.afterRequest r (m.ticked now) = (_, _) := congrArg Prod.snd applied
    rw [hafter] at nothing ⊢
    obtain ⟨-, rfl⟩ := List.append_eq_nil_iff.mp (fresh.symm.trans nothing)
    cases next
    rfl
  | drop beyond _ => exact absurd beyond (by decide)

/-- Not every pass of the run loop does what its callbacks ask for, even if no fault of the board is
met and no call to it panics: the keeper's deadline does not exist, so the tick panics before the
game starts that its pass hook has asked for. -/
theorem Machine.deadline_overflow_loses_requests :
    ¬ ∀ (m₀ : Machine Unit Unit), m₀.Built → ∀ calls before st after,
      Call.step.stages (m₀.afterCalls calls) = before ++ st :: after →
      (Call.step.run (m₀.afterCalls calls)).cabinet.bench.journal.all Entry.wentWell = true →
      st.Settles ((m₀.afterCalls calls).afterStages before)
        (st.run ((m₀.afterCalls calls).afterStages before)) := by
  intro hall
  let calls : List (Call Unit Unit) :=
    [.addMode (gateKeeper ⟨Span.bound - 1⟩ (.ask (.game .startGame) .idle)),
      .processEvent ⟨.switchClosedDebounced, 7⟩]
  let look (m : Machine Unit Unit) := Machine.onCabinet
    (Cabinet.onBench (Bench.poll (m.afterCalls calls).settings.includeFrameEvents))
    (m.afterCalls calls)
  obtain ⟨m₀, built, hlook, hover, hwell, hasked, hnone, hstarted, hlost⟩ := exists_gateMachine
    (P := fun m =>
      (look m).1 = .ok [] ∧
      ((look m).2.waiting.any fun o =>
        o.stands (look m).2.cabinet.switches && o.deadline?.isNone) = true ∧
      (Call.step.run (m.afterCalls calls)).cabinet.bench.journal.all Entry.wentWell = true ∧
      ((look m).2.ticked (look m).2.now).2.requests = [.game .startGame] ∧
      (Engine.afterRequest (.game .startGame) ((look m).2.ticked (look m).2.now)).2.requests = [] ∧
      (Engine.afterRequest (.game .startGame)
        ((look m).2.ticked (look m).2.now)).1.game.status.inProgress = true ∧
      (Stage.run (.tick (look m).2.now) (look m).2).engine.game.status.inProgress = false) ⟨1⟩
    (by decide +kernel)
  have hpolled : look m₀ = (.ok [], (look m₀).2) := Prod.ext hlook rfl
  obtain ⟨o, ho, hoverflow⟩ := List.any_eq_true.mp hover
  have hstages := Call.stages_of_overflow hpolled ⟨o, ho, by simpa using hoverflow⟩
  have hpass : (m₀.afterCalls calls).afterStages [.aside .poll] = (look m₀).2 :=
    congrArg Prod.snd (Act.bind_ok hpolled)
  have hsettles := hall m₀ built calls [.aside .poll] _ [] hstages hwell
  rw [hpass] at hsettles
  rw [Stage.settles_single hsettles hasked hnone, hstarted] at hlost
  exact nomatch hlost

end Playfield
