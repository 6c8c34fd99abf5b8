/-
What the file shows, end to end.

Three registers lie between a cloud on `cloud_test` and the file that `s` saves:
the cloud and the matrix of `img3D`, read once a turn, and the current cloud of
`testfinal`, read at every report in the window. Each is sampled at a pace of its
own, and each link may lose messages, so nothing can be said about how often a
cloud is in the file, or whether it is. What can be said is that a chain of
samplings is a sampling: the file shows `img3D` as it was at some of its moments,
in the order in which they came.
-/
import Sonar3D.Graph
import Sonar3D.Tester

set_option autoImplicit false

namespace Sonar3D.Testfinal

open Sonar3D.Hold Sonar3D.Runs Sonar3D.Sampling

variable {α : Type*}

/-! ## `testfinal`, whose blocks sample its current cloud -/

/-- The cloud is a row of readings of a register that has held `xs`. -/
def MadeFrom (xs : List (List α)) (cloud : List α) : Prop :=
  ∃ blocks, Samples xs blocks ∧ cloud = blocks.flatten

theorem MadeFrom.nil (xs : List (List α)) : MadeFrom xs [] := ⟨[], Samples.nil xs, rfl⟩

theorem MadeFrom.append_right {xs : List (List α)} {cloud : List α} (post : List (List α))
    (h : MadeFrom xs cloud) : MadeFrom (xs ++ post) cloud := by
  obtain ⟨blocks, hblocks, hcloud⟩ := h
  exact ⟨blocks, hblocks.append_right post, hcloud⟩

theorem MadeFrom.read_last {xs : List (List α)} {cloud x : List α} (h : MadeFrom xs cloud)
    (hx : xs.getLast? = some x) : MadeFrom xs (cloud ++ x) := by
  obtain ⟨blocks, hblocks, rfl⟩ := h
  exact ⟨blocks ++ [x], hblocks.read_last x hx, by simp⟩

/-- What the node holds once its current cloud has been each of `xs`: the last of
them, `*cloud` made from them, and files made from them. -/
structure Shows (xs : List (List α)) (s : State α) : Prop where
  current : xs.getLast? = some s.cloud_points
  cloud : MadeFrom xs s.cloud
  files : ∀ saved, Output.savePCDFileBinary saved ∈ s.output → MadeFrom xs saved

theorem Shows.initial (c : Option Char) (stdin : List Char) :
    Shows [[]] (State.initial c stdin : State α) where
  current := rfl
  cloud := MadeFrom.nil _
  files := by
    intro saved hsaved
    simp [State.initial] at hsaved

theorem Shows.dispatch {xs : List (List α)} {s : State α} (h : Shows xs s) (cb : Callback α) :
    Shows (xs ++ cb.cloud?.toList) (dispatch s cb) := by
  obtain ⟨hpoints, -, hcloud, -, -, -, houtput⟩ := dispatch_fields s cb
  refine ⟨?_, ?_, ?_⟩
  · cases cb with
    | sonar msg => simp [hpoints, Callback.cloud?]
    | servo msg => simpa [hpoints, Callback.cloud?] using h.current
  · rw [hcloud]
    apply MadeFrom.append_right
    split
    · exact h.cloud.read_last h.current
    · rw [List.append_nil]
      exact h.cloud
  · intro saved hsaved
    rw [houtput] at hsaved
    exact (h.files saved hsaved).append_right _

theorem Shows.spinOnce {xs : List (List α)} {s : State α} (h : Shows xs s)
    (cbs : List (Callback α)) :
    Shows (xs ++ cbs.filterMap Callback.cloud?) (spinOnce s cbs) := by
  induction cbs generalizing xs s with
  | nil => simpa [Testfinal.spinOnce] using h
  | cons cb cbs ih =>
      have hrest := ih (h.dispatch cb)
      have hlist : (cb :: cbs).filterMap Callback.cloud?
          = cb.cloud?.toList ++ cbs.filterMap Callback.cloud? := by
        cases cb <;> rfl
      rw [hlist, ← List.append_assoc]
      exact hrest

/-- A command sends out at most the file, which is `*cloud` as it was. -/
theorem mem_serve_output (s : State α) (cmd : Command) (saved : List α)
    (h : Output.savePCDFileBinary saved ∈ (serve s cmd).output) :
    Output.savePCDFileBinary saved ∈ s.output ∨ saved = s.cloud := by
  cases cmd with
  | goScan =>
      rw [serve, goScan_eq] at h
      dsimp only at h
      left
      split at h <;> simpa using h
  | checkServo => exact Or.inl h
  | saveCloud => simpa [serve, saveCloud, State.emit] using h
  | rotateServo =>
      left
      simpa [serve, rotateServo, moveMotor, State.emit] using h
  | exit => exact Or.inl h
  | invalid => exact Or.inl h

theorem Shows.served {xs : List (List α)} {s : State α} (h : Shows xs s) :
    Shows xs (served s) := by
  obtain ⟨hpoints, -, hcloud, -⟩ := served_fields s
  refine ⟨hpoints ▸ h.current, ?_, ?_⟩
  · rw [hcloud]
    split
    · exact MadeFrom.nil xs
    · exact h.cloud
  · intro saved hsaved
    rcases mem_serve_output _ _ saved hsaved with hold | hnew
    · apply h.files saved
      have hemit : Output.savePCDFileBinary saved
          ∈ s.output ++ [Output.selected (readKey s).c] := hold
      simpa using hemit
    · rw [hnew]
      exact h.cloud

theorem Shows.body {xs : List (List α)} {s : State α} (h : Shows xs s)
    (queued : List (Callback α)) :
    Shows (xs ++ queued.filterMap Callback.cloud?) (body s queued) := by
  by_cases hscan : s.scan = 1
  · obtain ⟨hpoints, -, hcloud⟩ := endOfScan_fields s
    have hend : Shows xs (endOfScan s) := by
      refine ⟨hpoints ▸ h.current, hcloud ▸ h.cloud, ?_⟩
      intro saved hsaved
      apply h.files saved
      unfold endOfScan at hsaved
      split at hsaved <;> exact hsaved
    rw [body_of_scan_eq s queued hscan]
    exact hend.spinOnce queued
  · have hspin := h.served.spinOnce queued
    rw [body_of_scan_ne s queued hscan, menuBranch_eq]
    -- the last `getchar()` touches the keyboard only
    exact ⟨hspin.current, hspin.cloud, hspin.files⟩

end Sonar3D.Testfinal

namespace Sonar3D.Graph

open Sonar3D.CallbackQueue Sonar3D.Hold Sonar3D.Sampling

/-! ## The invariant of a run -/

/-- What `img3D` has been through, `imgEvents`, and the clouds `testfinal` has
handled, `shown`, as the events of the network have them: whatever has been sent
has arrived in order, or is in flight, or is lost. -/
structure Traced (es : List Event) (imgEvents : List Img3D.Event) (shown : List PointCloud)
    (n : Network) : Prop where
  node : n.img3D = Img3D.run imgEvents
  clouds : ((Img3D.arrivals imgEvents).filterMap Img3D.Callback.cloud? ++ n.cloud_test).Sublist
    (publishedClouds es)
  reported : ((Img3D.arrivals imgEvents).filterMap Img3D.Callback.position?
    ++ positions n.reportsToImg3D).Sublist (positions (reports es))
  images : (shown ++ n.waiting.items.filterMap Testfinal.Callback.cloud?
    ++ n.Img_transformada).Sublist (Img3D.published imgEvents)
  shows : Testfinal.Shows ([] :: shown) n.testfinal

/-- Enqueueing may displace messages, so the clouds that wait are among those
that waited and the new one. -/
theorem enqueue_clouds (q : Queue (Testfinal.Callback.topic (α := PointXYZ)) Testfinal.depths)
    (cb : Testfinal.Callback PointXYZ) :
    ((q.enqueue cb).items.filterMap Testfinal.Callback.cloud?).Sublist
      (q.items.filterMap Testfinal.Callback.cloud? ++ cb.cloud?.toList) := by
  have h := (q.items_enqueue_sublist cb).filterMap Testfinal.Callback.cloud?
  rw [List.filterMap_append] at h
  cases cb <;> exact h

theorem arrivals_arrive {β : Type*} (f : Img3D.Callback → Option β) (es : List Img3D.Event)
    (m : Img3D.Callback) :
    (Img3D.arrivals (es ++ [.arrive m])).filterMap f
      = (Img3D.arrivals es).filterMap f ++ (f m).toList := by
  unfold Img3D.arrivals
  rw [List.filterMap_append, List.filterMap_append]
  rfl

theorem arrivals_iterate (es : List Img3D.Event) :
    Img3D.arrivals (es ++ [.iterate]) = Img3D.arrivals es := by
  unfold Img3D.arrivals
  rw [List.filterMap_append]
  exact List.append_nil _

theorem published_arrive (es : List Img3D.Event) (m : Img3D.Callback) :
    Img3D.published (es ++ [.arrive m]) = Img3D.published es := by
  unfold Img3D.published
  rw [Img3D.iterations_arrive]

theorem published_iterate (es : List Img3D.Event) :
    Img3D.published (es ++ [.iterate])
      = Img3D.published es ++ [Img3D.receive (Img3D.run es).globals] := by
  unfold Img3D.published
  rw [Img3D.iterations_iterate, List.map_append]
  rfl

/-- Losing the oldest of what is in flight keeps the rest in order. -/
theorem sublist_of_tail {β : Type*} {xs ys zs : List β} (h : (xs ++ ys).Sublist zs) :
    (xs ++ ys.tail).Sublist zs :=
  ((List.Sublist.refl xs).append (List.tail_sublist ys)).trans h

variable {es : List Event} {imgEvents : List Img3D.Event} {shown : List PointCloud} {n : Network}

/-- Sending more does not undo what has been traced. -/
theorem Traced.grow (h : Traced es imgEvents shown n) (e : Event) :
    Traced (es ++ [e]) imgEvents shown n := by
  refine ⟨h.node, ?_, ?_, h.images, h.shows⟩
  · unfold publishedClouds
    rw [List.filterMap_append]
    exact h.clouds.trans (List.sublist_append_left _ _)
  · unfold positions reports
    rw [List.filterMap_append, List.map_append]
    exact h.reported.trans (List.sublist_append_left _ _)

theorem Traced.publishCloud (h : Traced es imgEvents shown n) (cloud : PointCloud) :
    Traced (es ++ [.publishCloud cloud]) imgEvents shown (n.step (.publishCloud cloud)) := by
  refine ⟨h.node, ?_, (h.grow _).reported, h.images, h.shows⟩
  unfold publishedClouds
  rw [List.filterMap_append]
  show (_ ++ (n.cloud_test ++ [cloud])).Sublist (publishedClouds es ++ [cloud])
  rw [← List.append_assoc]
  exact h.clouds.append (List.Sublist.refl _)

theorem Traced.report (h : Traced es imgEvents shown n) (msg : JointState ℚ) :
    Traced (es ++ [.report msg]) imgEvents shown (n.step (.report msg)) := by
  refine ⟨h.node, (h.grow _).clouds, ?_, h.images, h.shows⟩
  unfold reports
  rw [List.filterMap_append]
  show (_ ++ positions (n.reportsToImg3D ++ [msg])).Sublist (positions (reports es ++ [msg]))
  unfold positions
  rw [List.map_append, List.map_append, ← List.append_assoc]
  exact h.reported.append (List.Sublist.refl _)

/-- A message for `img3D` moves from its link to the arrivals of the node. -/
theorem Traced.arrive (h : Traced es imgEvents shown n) (m : Img3D.Callback)
    (clouds : List PointCloud) (msgs : List (JointState ℚ))
    (hclouds : n.cloud_test = m.cloud?.toList ++ clouds)
    (hmsgs : positions n.reportsToImg3D = m.position?.toList ++ positions msgs) :
    Traced es (imgEvents ++ [.arrive m]) shown
      { n with cloud_test := clouds, reportsToImg3D := msgs, img3D := n.img3D.step (.arrive m) } := by
  have htraced := h.clouds
  have hreported := h.reported
  rw [hclouds, ← List.append_assoc] at htraced
  rw [hmsgs, ← List.append_assoc] at hreported
  refine ⟨?_, ?_, ?_, ?_, h.shows⟩
  · rw [Img3D.run_snoc, ← h.node]
  · rw [arrivals_arrive]
    exact htraced
  · rw [arrivals_arrive]
    exact hreported
  · rw [published_arrive]
    exact h.images

/-- A message for `testfinal` moves to its queue, and may displace another one there. -/
theorem Traced.enqueue (h : Traced es imgEvents shown n) (cb : Testfinal.Callback PointXYZ)
    (images : List PointCloud) (msgs : List (JointState ℚ))
    (himages : n.Img_transformada = cb.cloud?.toList ++ images) :
    Traced es imgEvents shown
      { n with Img_transformada := images, reportsToTestfinal := msgs,
               waiting := n.waiting.enqueue cb } := by
  refine ⟨h.node, h.clouds, h.reported, ?_, h.shows⟩
  have htraced := h.images
  rw [himages, List.append_assoc, ← List.append_assoc _ _ images] at htraced
  apply List.Sublist.trans _ htraced
  rw [List.append_assoc]
  exact (List.Sublist.refl shown).append
    ((enqueue_clouds n.waiting cb).append (List.Sublist.refl images))

/-- A delivery puts one message into the queue of its subscriber, if there is one. -/
theorem Traced.deliver (h : Traced es imgEvents shown n) (l : Link) :
    ∃ imgEvents', Traced es imgEvents' shown (n.deliver l) := by
  cases l with
  | cloud_test =>
      unfold Network.deliver
      cases hlink : n.cloud_test with
      | nil => exact ⟨imgEvents, h⟩
      | cons cloud rest => exact ⟨_, h.arrive (.sonar cloud) rest n.reportsToImg3D hlink rfl⟩
  | reportsToImg3D =>
      unfold Network.deliver
      cases hlink : n.reportsToImg3D with
      | nil => exact ⟨imgEvents, h⟩
      | cons msg rest =>
          exact ⟨_, h.arrive (.servo (readReport msg)) n.cloud_test rest rfl
            (congrArg positions hlink)⟩
  | Img_transformada =>
      unfold Network.deliver
      cases hlink : n.Img_transformada with
      | nil => exact ⟨imgEvents, h⟩
      | cons cloud rest =>
          exact ⟨imgEvents, h.enqueue (.sonar cloud) rest n.reportsToTestfinal hlink⟩
  | reportsToTestfinal =>
      unfold Network.deliver
      cases hlink : n.reportsToTestfinal with
      | nil => exact ⟨imgEvents, h⟩
      | cons msg rest => exact ⟨imgEvents, h.enqueue (.servo msg) n.Img_transformada rest rfl⟩

theorem Traced.lose (h : Traced es imgEvents shown n) (l : Link) :
    Traced es imgEvents shown (n.lose l) := by
  cases l with
  | cloud_test => exact ⟨h.node, sublist_of_tail h.clouds, h.reported, h.images, h.shows⟩
  | reportsToImg3D =>
      refine ⟨h.node, h.clouds, ?_, h.images, h.shows⟩
      have htail := sublist_of_tail h.reported
      unfold positions at htail ⊢
      rw [← List.map_tail] at htail
      exact htail
  | Img_transformada => exact ⟨h.node, h.clouds, h.reported, sublist_of_tail h.images, h.shows⟩
  | reportsToTestfinal => exact ⟨h.node, h.clouds, h.reported, h.images, h.shows⟩

/-- A turn of `img3D` puts one more publication in flight. -/
theorem Traced.turnImg3D (h : Traced es imgEvents shown n) :
    Traced es (imgEvents ++ [.iterate]) shown (n.step .turnImg3D) := by
  refine ⟨?_, ?_, ?_, ?_, h.shows⟩
  · rw [Img3D.run_snoc, ← h.node]
    rfl
  · rw [arrivals_iterate]
    exact h.clouds
  · rw [arrivals_iterate]
    exact h.reported
  · rw [published_iterate, ← h.node]
    show (_ ++ (n.Img_transformada ++ [Img3D.receive n.img3D.globals])).Sublist _
    rw [← List.append_assoc]
    exact h.images.append (List.Sublist.refl _)

/-- A turn of `testfinal` handles what waits. -/
theorem Traced.turnTestfinal (h : Traced es imgEvents shown n) :
    Traced es imgEvents (shown ++ n.waiting.items.filterMap Testfinal.Callback.cloud?)
      (n.step .turnTestfinal) := by
  refine ⟨h.node, h.clouds, h.reported, ?_, h.shows.body n.waiting.items⟩
  show (_ ++ [] ++ n.Img_transformada).Sublist _
  rw [List.append_nil]
  exact h.images

/-- Every run can be traced. The induction is on the events. -/
theorem run_traced (c : Option Char) (stdin : List Char) (es : List Event) :
    ∃ imgEvents shown, Traced es imgEvents shown (run c stdin es) := by
  induction es using List.reverseRecOn with
  | nil =>
      exact ⟨[], [], rfl, List.Sublist.refl _, List.Sublist.refl _, List.Sublist.refl _,
        Testfinal.Shows.initial c stdin⟩
  | append_singleton es e ih =>
      obtain ⟨imgEvents, shown, h⟩ := ih
      rw [run_snoc]
      cases e with
      | publishCloud cloud => exact ⟨imgEvents, shown, h.publishCloud cloud⟩
      | report msg => exact ⟨imgEvents, shown, h.report msg⟩
      | deliver l =>
          obtain ⟨imgEvents', h'⟩ := h.deliver l
          exact ⟨imgEvents', shown, h'.grow _⟩
      | lose l => exact ⟨imgEvents, shown, (h.lose l).grow _⟩
      | turnImg3D => exact ⟨_, shown, h.turnImg3D.grow _⟩
      | turnTestfinal => exact ⟨imgEvents, _, h.turnTestfinal.grow _⟩

/-! ## End to end -/

/-- A file is made from moments of `img3D`. -/
theorem Traced.file (h : Traced es imgEvents shown n) (saved : PointCloud)
    (hsaved : Testfinal.Output.savePCDFileBinary saved ∈ n.testfinal.output) :
    ∃ moments : List (List Img3D.Callback), moments.Pairwise (· <+: ·)
      ∧ (∀ m ∈ moments, m <+: n.handled) ∧ saved = (moments.map Img3D.image).flatten := by
  have hhandled : n.handled = Img3D.handled imgEvents := by
    unfold Network.handled
    rw [h.node]
    rfl
  have hshown : Samples (Img3D.published imgEvents) shown := by
    apply Samples.of_sublist
    apply List.Sublist.trans _ h.images
    rw [List.append_assoc]
    exact List.sublist_append_left _ _
  -- the empty cloud `testfinal` starts with is the first image of `img3D`
  have hchain : Samples ((Img3D.handled imgEvents).inits.map Img3D.image) ([] :: shown) := by
    have hsamples := (samples_published imgEvents).trans hshown
    obtain ⟨ps, hinits⟩ := exists_inits_eq_cons (Img3D.handled imgEvents)
    rw [hinits, List.map_cons] at hsamples ⊢
    exact Samples.read hsamples
  obtain ⟨blocks, hblocks, hflat⟩ := h.shows.files saved hsaved
  obtain ⟨moments, hsorted, hearlier, rfl⟩ := (hchain.trans hblocks).exists_moments Img3D.image
  rw [hhandled]
  exact ⟨moments, hsorted, hearlier, hflat⟩

/-- What `img3D` handles was sent, in the order in which it was sent. -/
theorem Traced.handled_sublist (h : Traced es imgEvents shown n) :
    (n.handled.filterMap Img3D.Callback.cloud?).Sublist (publishedClouds es)
      ∧ (n.handled.filterMap Img3D.Callback.position?).Sublist (positions (reports es)) := by
  have hhandled : n.handled.Sublist (Img3D.arrivals imgEvents) := by
    have hsub := Img3D.handled_append_waiting_sublist imgEvents
    unfold Network.handled
    rw [h.node]
    exact (List.sublist_append_left _ _).trans hsub
  constructor
  · exact (hhandled.filterMap _).trans ((List.sublist_append_left _ _).trans h.clouds)
  · exact (hhandled.filterMap _).trans ((List.sublist_append_left _ _).trans h.reported)

/-- **No going back.** In every run, every file is a row of blocks, each the image
of `img3D` after some of the callbacks it has handled, and every block after no
fewer of them than the block before it; and these callbacks are clouds and reports
that were sent, each at most once and in the order in which they were sent. -/
theorem file_in_order (c : Option Char) (stdin : List Char) (es : List Event) (saved : PointCloud)
    (hsaved : Testfinal.Output.savePCDFileBinary saved ∈ (run c stdin es).testfinal.output) :
    (∃ moments : List (List Img3D.Callback), moments.Pairwise (· <+: ·)
        ∧ (∀ m ∈ moments, m <+: (run c stdin es).handled)
        ∧ saved = (moments.map Img3D.image).flatten)
      ∧ ((run c stdin es).handled.filterMap Img3D.Callback.cloud?).Sublist (publishedClouds es)
      ∧ ((run c stdin es).handled.filterMap Img3D.Callback.position?).Sublist
          (positions (reports es)) := by
  obtain ⟨imgEvents, shown, h⟩ := run_traced c stdin es
  exact ⟨h.file saved hsaved, h.handled_sublist⟩

/-- A quarter turn. -/
def quarter : JointState ℚ := ⟨Testfinal.pi / 2, Testfinal.pi / 2, 0, false⟩

/-- One report and one cloud go through; the image from before the cloud is lost. -/
def oneCloud (cloud : PointCloud) : List Event :=
  [.report quarter, .deliver .reportsToImg3D, .publishCloud cloud, .deliver .cloud_test,
    .turnImg3D, .turnImg3D, .lose .Img_transformada, .deliver .Img_transformada,
    .deliver .reportsToTestfinal, .turnTestfinal, .turnTestfinal]

theorem oneCloud_output (cloud : PointCloud) :
    (run none ['c', '\n', 's', '\n'] (oneCloud cloud)).testfinal.output
      = [.selected (some 'c'), .selected (some 's'),
          .savePCDFileBinary (transformPointCloud cloud (rotationMatrix (quarter.current_pos : ℝ)))] := by
  with_unfolding_all rfl

theorem oneCloud_saves (cloud : PointCloud) :
    Testfinal.Output.savePCDFileBinary
        (transformPointCloud cloud (rotationMatrix (quarter.current_pos : ℝ)))
      ∈ (run none ['c', '\n', 's', '\n'] (oneCloud cloud)).testfinal.output := by
  rw [oneCloud_output]
  simp

/-- The file with one point, a quarter turn on. -/
theorem file_in_order_oneCloud :
    ∃ moments : List (List Img3D.Callback), moments.Pairwise (· <+: ·)
      ∧ [transformPoint (rotationMatrix (quarter.current_pos : ℝ)) ⟨1, 0, 0⟩]
          = (moments.map Img3D.image).flatten := by
  obtain ⟨⟨moments, hsorted, -, hsaved⟩, -⟩ :=
    file_in_order none _ (oneCloud [⟨1, 0, 0⟩]) _ (oneCloud_saves [⟨1, 0, 0⟩])
  exact ⟨moments, hsorted, hsaved⟩

/-! ## Point by point -/

/-- A point of an image is a point of the cloud held, under the position held. -/
theorem mem_image (m : List Img3D.Callback) (p : PointXYZ) (hp : p ∈ Img3D.image m) :
    ∃ cloud ∈ m.filterMap Img3D.Callback.cloud?, ∃ q ∈ cloud,
      p = transformPoint (Img3D.matrixOf (Img3D.lastPosition m)) q := by
  unfold Img3D.image transformPointCloud at hp
  obtain ⟨q, hq, rfl⟩ := List.mem_map.mp hp
  rcases held_eq_or_exists Img3D.Callback.cloud? [] m with hnone | ⟨cb, hcb, hcloud⟩
  · -- no cloud so far: the image is empty
    rw [Img3D.lastCloud, held_of_none _ _ _ hnone] at hq
    simp at hq
  · exact ⟨Img3D.lastCloud m, List.mem_filterMap.mpr ⟨cb, hcb, hcloud⟩, q, hq, rfl⟩

/-- The position held is one that was reported, if a report is the first thing
handled; otherwise there may be none. -/
theorem lastPosition_mem (m : List Img3D.Callback) :
    (Img3D.lastPosition m = none ∧ ∀ cb ∈ m, cb.position? = none)
      ∨ Img3D.lastPosition m ∈ m.filterMap Img3D.Callback.position? := by
  rcases held_eq_or_exists Img3D.Callback.position? none m with hnone | ⟨cb, hcb, hpos⟩
  · exact Or.inl ⟨held_of_none _ _ _ hnone, hnone⟩
  · exact Or.inr (List.mem_filterMap.mpr ⟨cb, hcb, hpos⟩)

/-- A point of a file comes from a point of a cloud that was published, moved by
the matrix of a position that was reported -- or by the zero matrix, which takes
it to the origin, and that only if a cloud was the first thing `img3D` handled. -/
theorem file_point (c : Option Char) (stdin : List Char) (es : List Event) (saved : PointCloud)
    (hsaved : Testfinal.Output.savePCDFileBinary saved ∈ (run c stdin es).testfinal.output)
    (p : PointXYZ) (hp : p ∈ saved) :
    ∃ cloud ∈ publishedClouds es, ∃ q ∈ cloud,
      (∃ msg ∈ reports es, p = transformPoint (rotationMatrix (msg.current_pos : ℝ)) q)
        ∨ (p = PointXYZ.origin ∧ ∃ msg, (run c stdin es).handled.head? = some (.sonar msg)) := by
  obtain ⟨imgEvents, shown, h⟩ := run_traced c stdin es
  obtain ⟨moments, -, hearlier, rfl⟩ := h.file saved hsaved
  obtain ⟨hclouds, hpositions⟩ := h.handled_sublist
  obtain ⟨block, hblock, hp⟩ := List.mem_flatten.mp hp
  obtain ⟨m, hm, rfl⟩ := List.mem_map.mp hblock
  obtain ⟨cloud, hcloud, q, hq, hpoint⟩ := mem_image m p hp
  have hsub := (hearlier m hm).sublist
  refine ⟨cloud, hclouds.subset ((hsub.filterMap _).subset hcloud), q, hq, ?_⟩
  rcases lastPosition_mem m with ⟨hnone, hsilent⟩ | hpos
  · right
    rw [hnone] at hpoint
    refine ⟨hpoint.trans (transformPoint_zero q), ?_⟩
    -- the first callback of the moment is one of the run, and no report
    cases m with
    | nil => simp at hcloud
    | cons cb cbs =>
        obtain ⟨rest, hrest⟩ := hearlier _ hm
        cases cb with
        | sonar msg => exact ⟨msg, by rw [← hrest]; rfl⟩
        | servo msg => exact absurd (hsilent _ List.mem_cons_self) (by simp [Img3D.Callback.position?])
  · left
    have hreported := hpositions.subset ((hsub.filterMap _).subset hpos)
    obtain ⟨msg, hmsg, ha⟩ := List.mem_map.mp hreported
    refine ⟨msg, hmsg, ?_⟩
    rw [hpoint, ← ha]
    rfl

/-- **The image is rigid.** In every run in which `img3D` handles a report before
the first cloud, every point of every file has the height of a point published on
`cloud_test` and its distance to the axis of the sonar. -/
theorem file_point_rigid (c : Option Char) (stdin : List Char) (es : List Event)
    (hfirst : ∀ msg, (run c stdin es).handled.head? ≠ some (.sonar msg)) (saved : PointCloud)
    (hsaved : Testfinal.Output.savePCDFileBinary saved ∈ (run c stdin es).testfinal.output)
    (p : PointXYZ) (hp : p ∈ saved) :
    ∃ cloud ∈ publishedClouds es, ∃ q ∈ cloud, SameHeightAndRadius p q := by
  obtain ⟨cloud, hcloud, q, hq, hcases⟩ := file_point c stdin es saved hsaved p hp
  refine ⟨cloud, hcloud, q, hq, ?_⟩
  rcases hcases with ⟨msg, -, rfl⟩ | ⟨-, msg, hhead⟩
  · exact rotation_sameHeightAndRadius _ q
  · exact absurd hhead (hfirst msg)

theorem oneCloud_handled (cloud : PointCloud) :
    (run none ['c', '\n', 's', '\n'] (oneCloud cloud)).handled
      = [.servo (readReport quarter), .sonar cloud] := by
  with_unfolding_all rfl

/-- The file of `oneCloud` has the point `(1, 0, 0)` turned about the axis. -/
theorem file_point_rigid_oneCloud :
    ∃ cloud ∈ publishedClouds (oneCloud [⟨1, 0, 0⟩]), ∃ q ∈ cloud,
      SameHeightAndRadius
        (transformPoint (rotationMatrix (quarter.current_pos : ℝ)) ⟨1, 0, 0⟩) q := by
  apply file_point_rigid none ['c', '\n', 's', '\n'] _ _ _ (oneCloud_saves [⟨1, 0, 0⟩])
  · exact List.mem_singleton.mpr rfl
  · intro msg
    rw [oneCloud_handled]
    simp

/-! ## With `tester` at the head -/

/-- The clouds `tester` has published in a run of its own, as messages. -/
def testerClouds (rand : ℕ → ℕ) (its : List (List Char)) : List PointCloud :=
  (Tester.run rand its).vars.published.map (fun cloud => cloud.map Tester.TestPoint.point)

/-- If it is `tester` that publishes on `cloud_test`, every point of every file
is within 101 metres of the axis and not more than 101 metres deep, whatever the
throws of its dice, the keys, the reports, the delays and the losses. -/
theorem tester_file_bounds (rand : ℕ → ℕ) (its : List (List Char)) (c : Option Char)
    (stdin : List Char) (es : List Event) (htester : publishedClouds es = testerClouds rand its)
    (saved : PointCloud)
    (hsaved : Testfinal.Output.savePCDFileBinary saved ∈ (run c stdin es).testfinal.output)
    (p : PointXYZ) (hp : p ∈ saved) :
    p.x ^ 2 + p.y ^ 2 ≤ 101 ^ 2 ∧ -101 ≤ p.z ∧ p.z ≤ 0 := by
  obtain ⟨cloud, hcloud, q, hq, hcases⟩ := file_point c stdin es saved hsaved p hp
  rw [htester] at hcloud
  obtain ⟨points, hpoints, rfl⟩ := List.mem_map.mp hcloud
  obtain ⟨t, ht, rfl⟩ := List.mem_map.mp hq
  rw [Tester.run_published] at hpoints
  obtain ⟨k, -, rfl⟩ := List.mem_map.mp hpoints
  have hbounds := (Tester.onCorner_of_mem rand (202 * k) t ht).bounds
  rcases hcases with ⟨msg, -, rfl⟩ | ⟨rfl, -⟩
  · -- turned about the axis: the same radius and the same height
    obtain ⟨hheight, hradius⟩ := rotation_sameHeightAndRadius (msg.current_pos : ℝ) t.point
    rw [hradius, hheight]
    exact hbounds
  · simp [PointXYZ.origin]

/-- The first point of the floor, in the file a quarter turn on. -/
theorem tester_file_bounds_oneCloud :
    (transformPoint (rotationMatrix (quarter.current_pos : ℝ)) ⟨0, 0, -100⟩).x ^ 2
        + (transformPoint (rotationMatrix (quarter.current_pos : ℝ)) ⟨0, 0, -100⟩).y ^ 2 ≤ 101 ^ 2
      ∧ -101 ≤ (transformPoint (rotationMatrix (quarter.current_pos : ℝ)) ⟨0, 0, -100⟩).z
      ∧ (transformPoint (rotationMatrix (quarter.current_pos : ℝ)) ⟨0, 0, -100⟩).z ≤ 0 := by
  have hclouds : testerClouds (fun _ => 0) [[]]
      = [(Tester.testCloud (fun _ => 0) 0).map Tester.TestPoint.point] := by
    unfold testerClouds
    rw [Tester.run_published]
    rfl
  have hfloor : (⟨0, 0, -100⟩ : PointXYZ)
      ∈ (Tester.testCloud (fun _ => 0) 0).map Tester.TestPoint.point := by
    apply List.mem_map.mpr
    refine ⟨⟨0, 0, -100⟩, ?_, by simp [Tester.TestPoint.point]⟩
    exact List.mem_append_left _ (List.mem_map.mpr ⟨0, by simp, by simp [Tester.dice_roll]⟩)
  exact tester_file_bounds (fun _ => 0) [[]] none ['c', '\n', 's', '\n']
    (oneCloud ((Tester.testCloud (fun _ => 0) 0).map Tester.TestPoint.point)) hclouds.symm _
    (oneCloud_saves _) _ (List.mem_map.mpr ⟨_, hfloor, rfl⟩)

end Sonar3D.Graph
