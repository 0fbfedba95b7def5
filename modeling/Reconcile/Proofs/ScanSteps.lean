import Reconcile.Proofs.CutScan

/-!
# A scan step by step

Where scans run side by side, each of them is interrupted between any two of its effects: counting,
delivering a difference, and asking the leader for a page. So a scan is cut into steps. Between two
questions to the leader it has effects that are still to come, one by one, and a point at which it
goes on after them (`ScanPoint`). `ScanPoint.resume` is the rest of the scan from such a point in
one go, and a step does not change what it comes to (`ScanPoint.resume_next`).

A leader is unchanging if its answers do not depend on what it was asked before
(`Leader.Unchanging`). Then it makes no difference to the rest of a scan what others have asked in
between (`ScanPoint.agrees_resume`), and every scan comes to its end after some number of steps
(`Leader.Unchanging.exists_lasts_reading`).
-/

namespace Reconcile

/-! ### Counting together -/

namespace Progress

instance : Zero Progress :=
  ⟨.zero⟩

/-- What is counted in two places. -/
instance : Add Progress :=
  ⟨fun a b =>
    ⟨a.keysScanned + b.keysScanned, a.keysSkipped + b.keysSkipped,
      a.onlyOnFollower + b.onlyOnFollower, a.onlyOnLeader + b.onlyOnLeader,
      a.differingValue + b.differingValue, a.rangeQueries + b.rangeQueries⟩⟩

/-- What is counted in two places is added counter by counter. -/
theorem add_def (a b : Progress) :
    a + b = ⟨a.keysScanned + b.keysScanned, a.keysSkipped + b.keysSkipped,
      a.onlyOnFollower + b.onlyOnFollower, a.onlyOnLeader + b.onlyOnLeader,
      a.differingValue + b.differingValue, a.rangeQueries + b.rangeQueries⟩ :=
  rfl

/-- At the start nothing is counted. -/
theorem zero_def : (0 : Progress) = ⟨0, 0, 0, 0, 0, 0⟩ :=
  rfl

instance : AddCommMonoid Progress where
  add_assoc a b c := by simp only [add_def, Nat.add_assoc]
  zero_add a := by simp only [add_def, zero_def, Nat.zero_add]
  add_zero a := by simp only [add_def, zero_def, Nat.add_zero]
  add_comm a b := by simp only [add_def, Nat.add_comm]
  nsmul := nsmulRec

/-- A difference that is counted. -/
def one (kind : DifferenceKind) : Progress :=
  Progress.zero.record kind

/-- Recording a difference adds one to the counter of its kind. -/
theorem record_eq (progress : Progress) (kind : DifferenceKind) :
    progress.record kind = progress + one kind := by
  cases kind <;> rfl

end Progress

/-! ### Effects -/

/-- What a scan does that others can see, apart from asking the leader. -/
inductive Effect where
  | count (progress : Progress)
  | deliver (difference : Difference)
  deriving DecidableEq, Repr

/-- The effects of a difference that is found: it is counted first. -/
def Difference.effects (difference : Difference) : List Effect :=
  [.count (.one difference.kind), .deliver difference]

namespace Output

/-- An output after an effect. It receives whatever is delivered. -/
def perform (output : Output) : Effect → Output
  | .count progress => { output with progress := output.progress + progress }
  | .deliver difference => { output with delivered := output.delivered.push difference }

/-- An output after some effects. -/
def performAll (output : Output) (effects : List Effect) : Output :=
  effects.foldl perform output

/-- The effects come one after the other. -/
theorem performAll_cons (output : Output) (effect : Effect) (effects : List Effect) :
    output.performAll (effect :: effects) = (output.perform effect).performAll effects :=
  rfl

/-- Effects in two parts come one part after the other. -/
theorem performAll_append (output : Output) (effects more : List Effect) :
    output.performAll (effects ++ more) = (output.performAll effects).performAll more :=
  List.foldl_append

/-- No effect makes or takes room: what is delivered here is never refused. -/
@[simp] theorem room_perform (output : Output) (effect : Effect) :
    (output.perform effect).room = output.room := by
  cases effect <;> rfl

/-- Neither do many. -/
@[simp] theorem room_performAll (output : Output) (effects : List Effect) :
    (output.performAll effects).room = output.room := by
  induction effects generalizing output with
  | nil => rfl
  | cons effect effects ih => rw [performAll_cons, ih, room_perform]

/-- An output with what another one has counted and received after it. -/
def join (output more : Output) : Output :=
  { output with
    progress := output.progress + more.progress
    delivered := output.delivered ++ more.delivered }

/-- An output that is joined to another one has its own room. -/
theorem room_join (output more : Output) : (output.join more).room = output.room :=
  rfl

/-- What two outputs have delivered comes one after the other. -/
theorem toList_delivered_join (output more : Output) :
    (output.join more).delivered.toList = output.delivered.toList ++ more.delivered.toList :=
  Array.toList_append

/-- What effects add does not depend on what was there before. -/
theorem performAll_eq_join (output : Output) (effects : List Effect) :
    output.performAll effects = output.join ((start .zero none).performAll effects) := by
  induction effects generalizing output with
  | nil =>
      have hprogress : output.progress + Progress.zero = output.progress := add_zero _
      rw [performAll, List.foldl_nil, join, performAll, List.foldl_nil, start, hprogress,
        Array.append_empty]
  | cons effect effects ih =>
      rw [performAll_cons, performAll_cons, ih, ih ((start .zero none).perform effect)]
      cases effect with
      | count progress =>
          have hfirst : Progress.zero + progress = progress := zero_add progress
          simp only [perform, join, start, hfirst, add_assoc, Array.empty_append]
      | deliver difference =>
          have hrest (more : Progress) : Progress.zero + more = more := zero_add more
          simp only [perform, join, start, hrest, ← Array.append_assoc, Array.append_singleton,
            List.push_toArray, List.nil_append]

/-- An open output receives all that is found. -/
theorem emitAll_of_open {output : Output} (hopen : output.room = none) (found : List Difference) :
    output.emitAll found = (.ok (), output.performAll (found.flatMap Difference.effects)) := by
  induction found generalizing output with
  | nil => rfl
  | cons difference found ih =>
      have hemit : output.emit difference =
          (.ok (), output.performAll difference.effects) := by
        rw [emit_of_open hopen, Progress.record_eq]
        rfl
      rw [emitAll, hemit, List.flatMap_cons, performAll_append]
      exact ih ((room_performAll output _).trans hopen)

end Output

namespace Comparison

/-- Takes items of the leader. Gives the differences that are found at once. -/
def pushAll (comparison : Comparison) : List Item → List Difference × Comparison
  | [] => ([], comparison)
  | item :: items =>
    let (found, comparison) := comparison.push item
    let (more, comparison) := comparison.pushAll items
    (found ++ more, comparison)

/-- A page whose differences are all delivered. -/
theorem takePage_of_open {output : Output} (hopen : output.room = none) (comparison : Comparison)
    (page : List Item) :
    comparison.takePage output page = (.ok (comparison.pushAll page).2,
      output.performAll ((comparison.pushAll page).1.flatMap Difference.effects)) := by
  induction page generalizing comparison output with
  | nil => rfl
  | cons item page ih =>
      rw [takePage, pushAll]
      dsimp only
      rw [Output.emitAll_of_open hopen, List.flatMap_append, Output.performAll_append]
      exact ih ((Output.room_performAll output _).trans hopen) _

end Comparison

/-! ### Steps -/

/-- Where a scan goes on once its effects have come. What is left of the source after a chunk is a
chunker and the items to come; after the last chunk nothing is. -/
inductive ScanPoint where
  /-- Before the next item. -/
  | reading (chunker : Chunker) (items : List Item)
  /-- Before the next page of a chunk's range. -/
  | comparing (comparison : Comparison) (listing : Listing) (left : Option (Chunker × List Item))
  | ended (result : Except ScanError Unit)

namespace ScanPoint

/-- After a chunk. -/
def after : Option (Chunker × List Item) → ScanPoint
  | none => .ended (.ok ())
  | some (chunker, items) => .reading chunker items

/-- Where a scan goes on that may have a chunk to compare first. -/
def compare? (settings : ScanSettings) (left : Option (Chunker × List Item)) :
    Option Chunk → List Effect × ScanPoint
  | none => ([], after left)
  | some chunk =>
    ([.count { Progress.zero with rangeQueries := 1 }],
      .comparing (.start settings.bufferSize chunk.items)
        (.start chunk.range settings.pageSize) left)

/-- Reads the next item, or comes to the end of the source. -/
def read (settings : ScanSettings) (fault : Option DatabaseError) (chunker : Chunker) :
    List Item → List Effect × ScanPoint
  | [] =>
    match fault with
    | some error => ([], .ended (.error (.database error)))
    | none => compare? settings none chunker.finish.1
  | item :: items =>
    let scanned : Effect := .count { Progress.zero with keysScanned := 1 }
    match chunker.advance item with
    | (.error error, _) => ([scanned], .ended (.error (.key error)))
    | (.ok chunk, chunker) =>
      let (skipped, chunker) := chunker.takeSkipped
      let (effects, point) := compare? settings (some (chunker, items)) chunk
      (scanned :: .count { Progress.zero with keysSkipped := skipped } :: effects, point)

/-- Takes the answer to a question for the next page. -/
def turn (comparison : Comparison) (left : Option (Chunker × List Item)) (following : Listing) :
    Except NetError (Option (List Item)) → List Effect × ScanPoint
  | .error error => ([], .ended (.error (.net error)))
  | .ok none => (comparison.finish.flatMap Difference.effects, after left)
  | .ok (some page) =>
    let (found, comparison) := comparison.pushAll page
    (found.flatMap Difference.effects, .comparing comparison following left)

section Next

variable {σ : Type} (leader : Leader σ) (settings : ScanSettings) (fault : Option DatabaseError)

/-- Goes on up to the next effects, with at most one question to the leader. -/
def next (point : ScanPoint) (state : σ) : (List Effect × ScanPoint) × σ :=
  match point with
  | .reading chunker items => (read settings fault chunker items, state)
  | .comparing comparison listing left =>
    let (answer, following, state) := listing.next leader state
    (turn comparison left following answer, state)
  | .ended result => (([], .ended result), state)

/-- The rest of a scan after a chunk. -/
def resumeAfter (left : Option (Chunker × List Item)) (state : σ) (output : Output) :
    Except ScanError Unit × σ × Output :=
  match left with
  | none => (.ok (), state, output)
  | some (chunker, items) => Scan.scanFrom leader settings fault chunker state output items

/-- The rest of a scan. -/
def resume (point : ScanPoint) (state : σ) (output : Output) :
    Except ScanError Unit × σ × Output :=
  match point with
  | .reading chunker items => Scan.scanFrom leader settings fault chunker state output items
  | .comparing comparison listing left =>
    match comparison.takeListing leader listing state output with
    | (.ok (), state, output) => resumeAfter leader settings fault left state output
    | failed => failed
  | .ended result => (result, state, output)

end Next

variable {σ : Type} {leader : Leader σ} {settings : ScanSettings} {fault : Option DatabaseError}

/-- Behind a chunk a scan is resumed with what is left of it, if anything is. -/
theorem resume_after (left : Option (Chunker × List Item)) (state : σ) (output : Output) :
    (after left).resume leader settings fault state output =
      resumeAfter leader settings fault left state output := by
  cases left <;> rfl

/-- A chunk that is compared before a scan goes on. -/
theorem resume_compare? (left : Option (Chunker × List Item)) (chunk : Option Chunk) (state : σ)
    (output : Output) :
    (compare? settings left chunk).2.resume leader settings fault state
        (output.performAll (compare? settings left chunk).1) =
      match Scan.compare? leader settings state output chunk with
      | (.ok (), state, output) => resumeAfter leader settings fault left state output
      | failed => failed := by
  cases chunk with
  | none => exact resume_after left state output
  | some chunk => rfl

/-- Reading an item cuts a scan in two: what it counts, and where the scan is resumed. -/
theorem resume_read (chunker : Chunker) (items : List Item) (state : σ) (output : Output) :
    (read settings fault chunker items).2.resume leader settings fault state
        (output.performAll (read settings fault chunker items).1) =
      Scan.scanFrom leader settings fault chunker state output items := by
  cases items with
  | nil =>
      cases fault with
      | some error => rfl
      | none =>
          rw [read, Scan.scanFrom, resume_compare?]
          rcases Scan.compare? leader settings state output chunker.finish.1 with ⟨_ | _, _, _⟩
          · rfl
          · rfl
  | cons item items =>
      rw [read, Scan.scanFrom]
      rcases chunker.advance item with ⟨error | chunk, following⟩
      · rfl
      · dsimp only
        rw [Output.performAll_cons, Output.performAll_cons, resume_compare?]
        rfl

/-- **A step does not change what a scan comes to.** -/
theorem resume_next (leader : Leader σ) (settings : ScanSettings) (fault : Option DatabaseError)
    (point : ScanPoint) (state : σ) {output : Output} (hopen : output.room = none) :
    (point.next leader settings fault state).1.2.resume leader settings fault
        (point.next leader settings fault state).2
        (output.performAll (point.next leader settings fault state).1.1) =
      point.resume leader settings fault state output := by
  cases point with
  | ended result => rfl
  | reading chunker items => exact resume_read chunker items state output
  | comparing comparison listing left =>
      rw [next, resume]
      rcases hnext : listing.next leader state with ⟨_ | page?, following, after⟩
      · rw [Comparison.takeListing_of_error hnext]
        rfl
      cases page? with
      | none =>
          rw [Comparison.takeListing_of_done hnext, Output.emitAll_of_open hopen]
          exact resume_after left after _
      | some page =>
          rw [Comparison.takeListing_of_page hnext
            (Comparison.takePage_of_open hopen comparison page)]
          rfl

end ScanPoint

/-! ### Unchanging leaders -/

/-- Whether the answers of a leader do not depend on what it was asked before, in the states of
which a property holds. -/
structure Leader.Unchanging {σ : Type} (leader : Leader σ) (Holds : σ → Prop) : Prop where
  /-- A request leaves the leader as it is supposed to be. -/
  holds_list : ∀ {request : ListRequest} {state : σ}, Holds state →
    Holds (leader.list request state).2
  /-- Its answer does not depend on the requests before it. -/
  list_eq : ∀ {request : ListRequest} {state state' : σ}, Holds state → Holds state' →
    (leader.list request state).1 = (leader.list request state').1

/-- A leader that holds a store to which nobody writes is unchanging. -/
theorem Serving.unchanging_steady (cap : Option Nat) (store : Store) :
    (Serving.steady cap).leader.Unchanging fun state => state.source = .stores store [] where
  holds_list := by
    intro request state hstate
    rw [Serving.list_steady, Served.asked, hstate]
    rfl
  list_eq := by
    intro request state state' hstate hstate'
    rw [Serving.list_steady, Serving.list_steady, hstate, hstate']

/-- Two scans that come to the same, whatever else they have left the leader in. -/
structure ScanAgrees {σ : Type} (Holds : σ → Prop) (a b : Except ScanError Unit × σ × Output) :
    Prop where
  /-- They end alike. -/
  result_eq : a.1 = b.1
  /-- They leave the same output. -/
  output_eq : a.2.2 = b.2.2
  /-- The one leaves the leader as it is supposed to be. -/
  left : Holds a.2.1
  /-- So does the other. -/
  right : Holds b.2.1

/-- Scans that agree with a third one agree. -/
theorem ScanAgrees.trans {σ : Type} {Holds : σ → Prop}
    {a b c : Except ScanError Unit × σ × Output} (h : ScanAgrees Holds a b)
    (h' : ScanAgrees Holds b c) : ScanAgrees Holds a c :=
  ⟨h.result_eq.trans h'.result_eq, h.output_eq.trans h'.output_eq, h.left, h'.right⟩

/-- Two scans that agree, taken apart: one result and one output, and two states of the leader. -/
theorem ScanAgrees.exists_eq {σ : Type} {Holds : σ → Prop}
    {a b : Except ScanError Unit × σ × Output} (h : ScanAgrees Holds a b) :
    ∃ result output next next', a = (result, next, output) ∧ b = (result, next', output) ∧
      Holds next ∧ Holds next' := by
  obtain ⟨result, next, output⟩ := a
  obtain ⟨result', next', output'⟩ := b
  obtain ⟨rfl, rfl, hnext, hnext'⟩ := h
  exact ⟨_, _, _, _, rfl, rfl, hnext, hnext'⟩

namespace Leader.Unchanging

variable {σ : Type} {leader : Leader σ} {Holds : σ → Prop} {settings : ScanSettings}
  {fault : Option DatabaseError} {state state' : σ}

/-- The answer to a question does not depend on what others have asked. -/
theorem exists_list_eq (h : leader.Unchanging Holds) (hstate : Holds state)
    (hstate' : Holds state') (request : ListRequest) :
    ∃ answer next next', leader.list request state = (answer, next) ∧
      leader.list request state' = (answer, next') ∧ Holds next ∧ Holds next' :=
  ⟨_, _, (leader.list request state').2, rfl, Prod.ext (h.list_eq hstate' hstate) rfl,
    h.holds_list hstate, h.holds_list hstate'⟩

/-- Nor does the next page of a listing. -/
theorem exists_next_eq (h : leader.Unchanging Holds) (hstate : Holds state)
    (hstate' : Holds state') (listing : Listing) :
    ∃ answer following next next', listing.next leader state = (answer, following, next) ∧
      listing.next leader state' = (answer, following, next') ∧ Holds next ∧ Holds next' := by
  obtain ⟨answer, next, next', hnext, hnext', hholds, hholds'⟩ :=
    h.exists_list_eq hstate hstate' listing.request
  rw [Listing.next, Listing.next, hnext, hnext']
  split
  · exact ⟨_, _, _, _, rfl, rfl, hstate, hstate'⟩
  · cases answer with
    | error error => exact ⟨_, _, _, _, rfl, rfl, hholds, hholds'⟩
    | ok page =>
        dsimp only
        cases lastObjectKey? page with
        | none => exact ⟨_, _, _, _, rfl, rfl, hholds, hholds'⟩
        | some key => exact ⟨_, _, _, _, rfl, rfl, hholds, hholds'⟩

/-- **What a comparison comes to does not depend on what others have asked.** -/
theorem agrees_takeListing (h : leader.Unchanging Holds) (hstate : Holds state)
    (hstate' : Holds state') (comparison : Comparison) (listing : Listing) (output : Output) :
    ScanAgrees Holds (comparison.takeListing leader listing state output)
      (comparison.takeListing leader listing state' output) := by
  induction listing, state using Listing.induction_next leader generalizing comparison state'
    output with
  | step listing state ih =>
      obtain ⟨answer, following, next, next', hnext, hnext', hholds, hholds'⟩ :=
        h.exists_next_eq hstate hstate' listing
      rcases answer with error | _ | page
      · rw [Comparison.takeListing_of_error hnext, Comparison.takeListing_of_error hnext']
        exact ⟨rfl, rfl, hholds, hholds'⟩
      · rw [Comparison.takeListing_of_done hnext, Comparison.takeListing_of_done hnext']
        exact ⟨rfl, rfl, hholds, hholds'⟩
      · rcases hpage : comparison.takePage output page with ⟨error | rest, output'⟩
        · rw [Comparison.takeListing_of_page_error hnext hpage,
            Comparison.takeListing_of_page_error hnext' hpage]
          exact ⟨rfl, rfl, hholds, hholds'⟩
        · rw [Comparison.takeListing_of_page hnext hpage,
            Comparison.takeListing_of_page hnext' hpage]
          exact ih page following next hnext hholds hholds' rest output'

/-- The comparison of a chunk, or of none, agrees with itself from any state of a leader that does
not change. -/
theorem agrees_compare? (h : leader.Unchanging Holds) (settings : ScanSettings)
    (hstate : Holds state) (hstate' : Holds state') (output : Output) (chunk : Option Chunk) :
    ScanAgrees Holds (Scan.compare? leader settings state output chunk)
      (Scan.compare? leader settings state' output chunk) := by
  cases chunk with
  | none => exact ⟨rfl, rfl, hstate, hstate'⟩
  | some chunk => exact h.agrees_takeListing hstate hstate' _ _ _

/-- **What a scan comes to does not depend on what others have asked.** -/
theorem agrees_scanFrom (h : leader.Unchanging Holds) (hstate : Holds state)
    (hstate' : Holds state') (chunker : Chunker) (output : Output) (items : List Item) :
    ScanAgrees Holds (Scan.scanFrom leader settings fault chunker state output items)
      (Scan.scanFrom leader settings fault chunker state' output items) := by
  induction items generalizing chunker state state' output with
  | nil =>
      cases fault with
      | some error => exact ⟨rfl, rfl, hstate, hstate'⟩
      | none => exact h.agrees_compare? settings hstate hstate' output chunker.finish.1
  | cons item items ih =>
      rw [Scan.scanFrom, Scan.scanFrom]
      rcases chunker.advance item with ⟨error | chunk, following⟩
      · exact ⟨rfl, rfl, hstate, hstate'⟩
      · obtain ⟨result, output', next, next', hcompare, hcompare', hholds, hholds'⟩ :=
          (h.agrees_compare? settings hstate hstate'
            (output.countScanned.countSkipped following.takeSkipped.1) chunk).exists_eq
        dsimp only
        rw [hcompare, hcompare']
        cases result with
        | error error => exact ⟨rfl, rfl, hholds, hholds'⟩
        | ok _ => exact ih hholds hholds' _ _

/-- **What is left of a scan comes to the same**, whatever others have asked. -/
theorem agrees_resume (h : leader.Unchanging Holds) (settings : ScanSettings)
    (fault : Option DatabaseError) (hstate : Holds state) (hstate' : Holds state')
    (point : ScanPoint) (output : Output) :
    ScanAgrees Holds (point.resume leader settings fault state output)
      (point.resume leader settings fault state' output) := by
  cases point with
  | ended result => exact ⟨rfl, rfl, hstate, hstate'⟩
  | reading chunker items => exact h.agrees_scanFrom hstate hstate' chunker output items
  | comparing comparison listing left =>
      obtain ⟨result, output', next, next', hlisting, hlisting', hholds, hholds'⟩ :=
        (h.agrees_takeListing hstate hstate' comparison listing output).exists_eq
      rw [ScanPoint.resume, ScanPoint.resume, hlisting, hlisting']
      cases result with
      | error error => exact ⟨rfl, rfl, hholds, hholds'⟩
      | ok _ =>
          cases left with
          | none => exact ⟨rfl, rfl, hholds, hholds'⟩
          | some left => exact h.agrees_scanFrom hholds hholds' left.1 output' left.2

/-- One step of a scan does not depend on what others have asked. -/
theorem next_eq (h : leader.Unchanging Holds) (hstate : Holds state) (hstate' : Holds state')
    (point : ScanPoint) :
    (point.next leader settings fault state').1 = (point.next leader settings fault state).1 := by
  cases point with
  | ended result => rfl
  | reading chunker items => rfl
  | comparing comparison listing left =>
      obtain ⟨answer, following, next, next', hnext, hnext', -, -⟩ :=
        h.exists_next_eq hstate hstate' listing
      rw [ScanPoint.next, ScanPoint.next, hnext, hnext']

/-- A step keeps a leader unchanged. -/
theorem holds_of_next (h : leader.Unchanging Holds) (hstate : Holds state) {point : ScanPoint}
    {step : List Effect × ScanPoint} {after : σ}
    (hstep : point.next leader settings fault state = (step, after)) : Holds after := by
  cases point with
  | ended result => exact (Prod.mk.inj hstep).2 ▸ hstate
  | reading chunker items => exact (Prod.mk.inj hstep).2 ▸ hstate
  | comparing comparison listing left =>
      obtain ⟨answer, following, next, -, hnext, -, hholds, -⟩ :=
        h.exists_next_eq hstate hstate listing
      rw [ScanPoint.next, hnext] at hstep
      exact (Prod.mk.inj hstep).2 ▸ hholds

end Leader.Unchanging

/-! ### Scans end -/

/-- How many steps a scan still makes, with some effects to come and a point at which it goes on. -/
inductive ScanPoint.Lasts {σ : Type} (leader : Leader σ) (settings : ScanSettings)
    (fault : Option DatabaseError) (Holds : σ → Prop) : List Effect → ScanPoint → Nat → Prop
  | ended (result : Except ScanError Unit) : Lasts leader settings fault Holds [] (.ended result) 0
  | perform {effects : List Effect} {point : ScanPoint} {n : Nat} (effect : Effect) :
      Lasts leader settings fault Holds effects point n →
      Lasts leader settings fault Holds (effect :: effects) point (n + 1)
  | next {effects : List Effect} {point following : ScanPoint} {n : Nat} :
      (∀ state, Holds state → (point.next leader settings fault state).1 = (effects, following)) →
      Lasts leader settings fault Holds effects following n →
      Lasts leader settings fault Holds [] point (n + 1)

namespace ScanPoint.Lasts

variable {σ : Type} {leader : Leader σ} {settings : ScanSettings} {fault : Option DatabaseError}
  {Holds : σ → Prop} {point : ScanPoint} {n : Nat}

/-- A scan that lasts some steps lasts one less behind its next effect. -/
theorem exists_of_cons {effect : Effect} {effects : List Effect}
    (h : Lasts leader settings fault Holds (effect :: effects) point n) :
    ∃ m, n = m + 1 ∧ Lasts leader settings fault Holds effects point m := by
  cases h with
  | perform _ hrest => exact ⟨_, rfl, hrest⟩

/-- And one less behind the step that it takes when there is no effect to wait for. -/
theorem exists_of_next (h : Lasts leader settings fault Holds [] point n)
    (hgoes : ∀ result, point ≠ .ended result) {state : σ} (hstate : Holds state) :
    ∃ m, n = m + 1 ∧ Lasts leader settings fault Holds
      (point.next leader settings fault state).1.1
      (point.next leader settings fault state).1.2 m := by
  cases h with
  | ended result => exact absurd rfl (hgoes result)
  | next hnext hrest =>
      rw [hnext state hstate]
      exact ⟨_, rfl, hrest⟩

end ScanPoint.Lasts

/-- **What a scan still counts and sends** does not depend on what was counted and sent before, nor
on what others have asked. -/
theorem ScanPoint.Lasts.exists_resume_eq {σ : Type} {leader : Leader σ} {settings : ScanSettings}
    {fault : Option DatabaseError} {Holds : σ → Prop} (h : leader.Unchanging Holds)
    {effects : List Effect} {point : ScanPoint} {n : Nat}
    (hlasts : ScanPoint.Lasts leader settings fault Holds effects point n) :
    ∃ result found, ∀ state, Holds state → ∀ output : Output, output.room = none →
      ∃ next, Holds next ∧
        point.resume leader settings fault state (output.performAll effects) =
          (result, next, output.performAll found) := by
  induction hlasts with
  | ended result => exact ⟨result, [], fun state hstate output _ => ⟨state, hstate, rfl⟩⟩
  | perform effect _ ih =>
      obtain ⟨result, found, hrest⟩ := ih
      refine ⟨result, effect :: found, fun state hstate output hopen => ?_⟩
      exact hrest state hstate (output.perform effect) ((output.room_perform effect).trans hopen)
  | @next effects point following n hnext _ ih =>
      obtain ⟨result, found, hrest⟩ := ih
      refine ⟨result, found, fun state hstate output hopen => ?_⟩
      have hholds : Holds (point.next leader settings fault state).2 := h.holds_of_next hstate rfl
      obtain ⟨next, hholds', heq⟩ := hrest _ hholds output hopen
      have hstep := ScanPoint.resume_next leader settings fault point state hopen
      rw [hnext state hstate] at hstep
      exact ⟨next, hholds', hstep.symm.trans heq⟩

/-- Effects in front make a scan longer, but not endless. -/
theorem ScanPoint.exists_lasts_effects {σ : Type} {leader : Leader σ} {settings : ScanSettings}
    {fault : Option DatabaseError} {Holds : σ → Prop} {point : ScanPoint}
    (h : ∃ n, ScanPoint.Lasts leader settings fault Holds [] point n) (effects : List Effect) :
    ∃ n, ScanPoint.Lasts leader settings fault Holds effects point n := by
  induction effects with
  | nil => exact h
  | cons effect effects ih =>
      obtain ⟨n, hn⟩ := ih
      exact ⟨n + 1, .perform effect hn⟩

namespace Leader.Unchanging

variable {σ : Type} {leader : Leader σ} {Holds : σ → Prop} {settings : ScanSettings}
  {fault : Option DatabaseError} {state : σ}

/-- A step that goes on at a point which a scan leaves is one that a scan leaves. -/
theorem exists_lasts_of_next (h : leader.Unchanging Holds) (hstate : Holds state)
    {point : ScanPoint}
    (hnext : ∃ n, ScanPoint.Lasts leader settings fault Holds []
      (point.next leader settings fault state).1.2 n) :
    ∃ n, ScanPoint.Lasts leader settings fault Holds [] point n := by
  obtain ⟨n, hn⟩ :=
    ScanPoint.exists_lasts_effects hnext (point.next leader settings fault state).1.1
  exact ⟨n + 1, .next (fun state' hstate' => h.next_eq hstate hstate' point) hn⟩

/-- A comparison ends, since its listing does. -/
theorem exists_lasts_comparing (h : leader.Unchanging Holds) (hstate : Holds state)
    {left : Option (Chunker × List Item)}
    (hleft : ∃ n, ScanPoint.Lasts leader settings fault Holds [] (.after left) n)
    (comparison : Comparison) (listing : Listing) :
    ∃ n, ScanPoint.Lasts leader settings fault Holds [] (.comparing comparison listing left) n := by
  induction listing, state using Listing.induction_next leader generalizing comparison with
  | step listing state ih =>
      refine h.exists_lasts_of_next hstate ?_
      obtain ⟨answer, following, next, -, hnext, -, hholds, -⟩ :=
        h.exists_next_eq hstate hstate listing
      rw [ScanPoint.next, hnext]
      rcases answer with error | _ | page
      · exact ⟨0, .ended _⟩
      · exact hleft
      · exact ih page following next hnext hholds _

/-- The comparison of a chunk ends if what comes behind it does. -/
theorem exists_lasts_compare? (h : leader.Unchanging Holds) (hstate : Holds state)
    {left : Option (Chunker × List Item)}
    (hleft : ∃ n, ScanPoint.Lasts leader settings fault Holds [] (.after left) n)
    (chunk : Option Chunk) :
    ∃ n, ScanPoint.Lasts leader settings fault Holds []
      (ScanPoint.compare? settings left chunk).2 n := by
  cases chunk with
  | none => exact hleft
  | some chunk => exact h.exists_lasts_comparing hstate hleft _ _

/-- **A scan ends**, after a number of steps that does not depend on what others have asked. -/
theorem exists_lasts_reading (h : leader.Unchanging Holds) (hstate : Holds state)
    (settings : ScanSettings) (fault : Option DatabaseError) (chunker : Chunker)
    (items : List Item) :
    ∃ n, ScanPoint.Lasts leader settings fault Holds [] (.reading chunker items) n := by
  induction items generalizing chunker with
  | nil =>
      refine h.exists_lasts_of_next hstate ?_
      cases fault with
      | some error => exact ⟨0, .ended _⟩
      | none => exact h.exists_lasts_compare? hstate ⟨0, .ended _⟩ chunker.finish.1
  | cons item items ih =>
      refine h.exists_lasts_of_next hstate ?_
      rw [ScanPoint.next, ScanPoint.read]
      rcases chunker.advance item with ⟨error | chunk, following⟩
      · exact ⟨0, .ended _⟩
      · exact h.exists_lasts_compare? hstate (ih _) chunk

end Leader.Unchanging

end Reconcile
