/-
Which cloud `img3D` publishes with which angle.

The loop samples: publication `i` shows whatever the two registers hold when
the `i`-th turn starts. Read over the batches of callbacks the spins
dispatched, that is one equation, `published_getElem?`, and everything else
here is it read in a particular situation:

* a cloud that is the last one handled in its turn is shown by the next turn
  and by each further one up to the turn that handles the next cloud;
* a cloud handled before another one in the same turn influences nothing;
* turns that each handle one cloud, last, show every cloud once.

`PairsOnce` is the law a queue-driven node would satisfy -- every cloud once,
with the report handled before it -- and `pairing_fails` has the three ways in
which a sampling node departs from it.
-/
import Sonar3D.Img3D

set_option autoImplicit false

namespace Sonar3D.Img3D

open Sonar3D.CallbackQueue Sonar3D.Hold

noncomputable def published (es : List Event) : List PointCloud :=
  (iterations es).map Iteration.published

noncomputable def batches (es : List Event) : List (List Callback) :=
  (iterations es).map Iteration.handled

theorem batches_flatten (es : List Event) : (batches es).flatten = handled es := by
  unfold batches handled
  rw [List.flatMap_def]

/-! ## The law of a node that publishes every cloud once -/

/-- Every sonar cloud of `cbs` under the position reported last before it, `p`
being the one reported before `cbs`. -/
noncomputable def pairedImages (p : Option ℝ) : List Callback → List PointCloud
  | [] => []
  | .sonar msg :: cbs => transformPointCloud msg (matrixOf p) :: pairedImages p cbs
  | .servo msg :: cbs => pairedImages (some msg.current_pos) cbs

/-- The callbacks of the turns that are followed by another one. -/
noncomputable def handledBeforeLastTurn (es : List Event) : List Callback :=
  (batches es).dropLast.flatten

/-- After some turns with nothing to show, every cloud handled in a turn that is
followed by another one is published once, in order of arrival, under the
position of the last report handled before it. -/
def PairsOnce (es : List Event) : Prop :=
  ∃ k, published es = List.replicate k [] ++ pairedImages none (handledBeforeLastTurn es)

/-- A servo report was handled before the first sonar cloud. -/
def ReportFirst (es : List Event) : Prop :=
  ∀ msg, (handled es).head? ≠ some (.sonar msg)

/-! ## The publications as samples -/

/-- What the turns publish when they dispatch `bs`, from a cloud `c` and a
position `p` held at the start. -/
noncomputable def samples (c : PointCloud) (p : Option ℝ) : List (List Callback) → List PointCloud
  | [] => []
  | b :: bs => transformPointCloud c (matrixOf p)
      :: samples (held Callback.cloud? c b) (held Callback.position? p b) bs

theorem samples_append (c : PointCloud) (p : Option ℝ) (bs bs' : List (List Callback)) :
    samples c p (bs ++ bs')
      = samples c p bs ++ samples (held Callback.cloud? c bs.flatten)
          (held Callback.position? p bs.flatten) bs' := by
  induction bs generalizing c p with
  | nil => rfl
  | cons b bs ih =>
      rw [List.cons_append, samples, samples, ih, List.flatten_cons, held_append, held_append]
      rfl

theorem samples_length (c : PointCloud) (p : Option ℝ) (bs : List (List Callback)) :
    (samples c p bs).length = bs.length := by
  induction bs generalizing c p with
  | nil => rfl
  | cons b bs ih => rw [samples, List.length_cons, List.length_cons, ih]

/-- The publications of a run are the samples of its batches. The induction is
on the events: an arrival changes neither side, a turn appends one sample. -/
theorem published_eq_samples (es : List Event) :
    published es = samples [] none (batches es) := by
  induction es using List.reverseRecOn with
  | nil => rfl
  | append_singleton es e ih =>
      cases e with
      | arrive m =>
          -- nothing is published and nothing dispatched
          unfold published batches at ih ⊢
          rw [iterations_arrive]
          exact ih
      | iterate =>
          -- the turn publishes what the callbacks before it leave, and only then
          -- dispatches its own
          have hpub : published (es ++ [.iterate]) = published es ++ [image (handled es)] := by
            unfold published
            rw [iterations_iterate, List.map_append, ← receive_run]
            rfl
          have hbat : batches (es ++ [.iterate]) = batches es ++ [(run es).queue.items] := by
            unfold batches
            rw [iterations_iterate, List.map_append]
            rfl
          rw [hpub, hbat, samples_append, ih, batches_flatten]
          rfl

/-- **The sampling law.** Publication `i` is the cloud handled last in the turns
before turn `i`, under the position reported last in them. -/
theorem published_getElem? (es : List Event) (i : ℕ) (hi : i < (iterations es).length) :
    (published es)[i]? = some (image ((batches es).take i).flatten) := by
  have hlen : i < (batches es).length := by
    unfold batches
    rw [List.length_map]
    exact hi
  have hsplit : batches es = (batches es).take i ++ (batches es)[i] :: (batches es).drop (i + 1) := by
    rw [List.cons_getElem_drop_succ, List.take_append_drop]
  have htake : ((batches es).take i).length = i := by
    rw [List.length_take]
    omega
  have hpub : published es
      = samples [] none ((batches es).take i)
        ++ samples (held Callback.cloud? [] ((batches es).take i).flatten)
            (held Callback.position? none ((batches es).take i).flatten)
            ((batches es)[i] :: (batches es).drop (i + 1)) := by
    rw [← samples_append, ← hsplit, published_eq_samples]
  rw [hpub, List.getElem?_append_right (by rw [samples_length, htake])]
  rw [samples_length, htake, Nat.sub_self]
  rfl

/-! ## A cloud that stays -/

/-- A cloud after which no other one is handled, up to the turn in question, is
the one shown. -/
theorem lastCloud_span (pre mid : List (List Callback)) (b₁ b₂ : List Callback)
    (msg : PointCloud) (hb₂ : ∀ cb ∈ b₂, cb.cloud? = none)
    (hmid : ∀ b ∈ mid, ∀ cb ∈ b, cb.cloud? = none) :
    lastCloud (pre ++ (b₁ ++ .sonar msg :: b₂) :: mid).flatten = msg := by
  have hflat : (pre ++ (b₁ ++ Callback.sonar msg :: b₂) :: mid).flatten
      = (pre.flatten ++ b₁) ++ Callback.sonar msg :: (b₂ ++ mid.flatten) := by
    simp only [List.flatten_append, List.flatten_cons, List.append_assoc, List.cons_append]
  rw [hflat]
  apply held_of_last_write
  · rfl
  · intro cb hcb
    rcases List.mem_append.mp hcb with h | h
    · exact hb₂ cb h
    · obtain ⟨b, hb, hcb'⟩ := List.mem_flatten.mp h
      exact hmid b hb cb hcb'

/-- A cloud handled last in its turn is published by the next turn, and again by
every further turn up to and including the one that handles the next cloud,
each time under the position reported last before that publication. -/
theorem published_span (es : List Event) (pre mid post : List (List Callback))
    (b₁ b₂ : List Callback) (msg : PointCloud)
    (hbs : batches es = pre ++ (b₁ ++ .sonar msg :: b₂) :: (mid ++ post))
    (hb₂ : ∀ cb ∈ b₂, cb.cloud? = none) (hmid : ∀ b ∈ mid, ∀ cb ∈ b, cb.cloud? = none)
    (k : ℕ) (hk : k ≤ mid.length) (hturn : pre.length + 1 + k < (iterations es).length) :
    (published es)[pre.length + 1 + k]?
      = some (transformPointCloud msg (matrixOf (lastPosition
          (pre ++ (b₁ ++ .sonar msg :: b₂) :: mid.take k).flatten))) := by
  have htake : (batches es).take (pre.length + 1 + k)
      = pre ++ (b₁ ++ .sonar msg :: b₂) :: mid.take k := by
    rw [hbs, List.take_append, List.take_of_length_le (by omega)]
    have hlen : pre.length + 1 + k - pre.length = k + 1 := by omega
    rw [hlen, List.take_succ_cons, List.take_append_of_le_length hk]
  have hmid' : ∀ b ∈ mid.take k, ∀ cb ∈ b, cb.cloud? = none :=
    fun b hb => hmid b (List.mem_of_mem_take hb)
  rw [published_getElem? es _ hturn, htake, image,
    lastCloud_span pre (mid.take k) b₁ b₂ msg hb₂ hmid']

/-! ## A cloud that is overtaken -/

/-- Two batches that end with the same cloud and the same position registers. -/
def SameLast (b b' : List Callback) : Prop :=
  (∀ c, held Callback.cloud? c b = held Callback.cloud? c b')
    ∧ ∀ p, held Callback.position? p b = held Callback.position? p b'

/-- Replacing a cloud that another one follows in the same turn leaves the
registers alone. -/
theorem sameLast_overtaken (b₁ b₂ b₃ : List Callback) (msg msg' last : PointCloud) :
    SameLast (b₁ ++ .sonar msg :: b₂ ++ .sonar last :: b₃)
      (b₁ ++ .sonar msg' :: b₂ ++ .sonar last :: b₃) := by
  constructor
  · intro c
    simp only [held_append, held_cons, Callback.cloud?, Option.getD_some]
  · intro p
    simp only [held_append, held_cons, Callback.position?, Option.getD_none]

theorem samples_congr (bs bs' : List (List Callback)) (h : List.Forall₂ SameLast bs bs')
    (c : PointCloud) (p : Option ℝ) : samples c p bs = samples c p bs' := by
  induction h generalizing c p with
  | nil => rfl
  | cons hb _ ih => rw [samples, samples, hb.1 c, hb.2 p, ih]

theorem published_congr (es es' : List Event)
    (h : List.Forall₂ SameLast (batches es) (batches es')) : published es = published es' := by
  rw [published_eq_samples, published_eq_samples]
  exact samples_congr _ _ h [] none

/-! ## Turns in lock step -/

def NoCloud (b : List Callback) : Prop := ∀ cb ∈ b, cb.cloud? = none

/-- A turn that handles one cloud, and no report after it. -/
def OneCloudLast (b : List Callback) : Prop :=
  ∃ rs msg, NoCloud rs ∧ b = rs ++ [.sonar msg]

/-- From the first cloud on, every turn that is followed by another one handles
one cloud, last. -/
def LockStep (es : List Event) : Prop :=
  ∃ pre post, (batches es).dropLast = pre ++ post
    ∧ (∀ b ∈ pre, NoCloud b) ∧ ∀ b ∈ post, OneCloudLast b

/-- Reports before a cloud only move the position. -/
theorem pairedImages_append_noCloud (p : Option ℝ) (rs cbs : List Callback) (h : NoCloud rs) :
    pairedImages p (rs ++ cbs) = pairedImages (held Callback.position? p rs) cbs := by
  induction rs generalizing p with
  | nil => rfl
  | cons cb rs ih =>
      have hrs : NoCloud rs := fun cb' hmem => h cb' (List.mem_cons_of_mem cb hmem)
      cases cb with
      | sonar msg =>
          have hnone := h (.sonar msg) List.mem_cons_self
          simp [Callback.cloud?] at hnone
      | servo msg =>
          rw [List.cons_append, pairedImages, held_cons, ih _ hrs]
          rfl

/-- In lock step the samples are the held cloud and then the paired images of
all turns but the last, whatever the last one handles. -/
theorem samples_oneCloudLast (bs : List (List Callback)) (last : List Callback)
    (h : ∀ b ∈ bs, OneCloudLast b) (c : PointCloud) (p : Option ℝ) :
    samples c p (bs ++ [last])
      = transformPointCloud c (matrixOf p) :: pairedImages p bs.flatten := by
  induction bs generalizing c p with
  | nil => rfl
  | cons b bs ih =>
      -- the turn handles the reports `rs` and then the cloud `msg`, so what the
      -- next turn shows is `msg` under the last of them
      obtain ⟨rs, msg, hrs, rfl⟩ := h b List.mem_cons_self
      have htail : ∀ b ∈ bs, OneCloudLast b := fun b hmem => h b (List.mem_cons_of_mem _ hmem)
      have hcloud : held Callback.cloud? c (rs ++ [.sonar msg]) = msg :=
        held_of_last_write _ _ _ _ _ _ rfl (by simp)
      have hpos : held Callback.position? p (rs ++ [.sonar msg])
          = held Callback.position? p rs := by
        rw [held_append]
        rfl
      rw [List.cons_append, samples, hcloud, hpos, ih htail, List.flatten_cons,
        List.append_assoc, pairedImages_append_noCloud p rs _ hrs]
      rfl

theorem samples_noCloud (bs : List (List Callback)) (h : ∀ b ∈ bs, NoCloud b) (p : Option ℝ) :
    samples [] p bs = List.replicate bs.length [] := by
  induction bs generalizing p with
  | nil => rfl
  | cons b bs ih =>
      have hb : held Callback.cloud? [] b = [] := held_of_none _ _ _ (h b List.mem_cons_self)
      rw [samples, hb, ih (fun b' hmem => h b' (List.mem_cons_of_mem b hmem)), List.length_cons,
        List.replicate_succ]
      rfl

theorem noCloud_flatten (bs : List (List Callback)) (h : ∀ b ∈ bs, NoCloud b) :
    NoCloud bs.flatten := by
  intro cb hcb
  obtain ⟨b, hb, hcb'⟩ := List.mem_flatten.mp hcb
  exact h b hb cb hcb'

theorem pairsOnce_of_lockStep (es : List Event) (h : LockStep es) : PairsOnce es := by
  obtain ⟨pre, post, hbs, hpre, hpost⟩ := h
  unfold PairsOnce handledBeforeLastTurn
  rw [published_eq_samples]
  rcases List.eq_nil_or_concat (batches es) with hnil | ⟨init, last, hlast⟩
  · -- no turn at all: nothing is owed and nothing is shown
    rw [hnil]
    exact ⟨0, rfl⟩
  · rw [List.concat_eq_append] at hlast
    rw [hlast, List.dropLast_concat] at hbs
    refine ⟨pre.length + 1, ?_⟩
    have hcloud : held Callback.cloud? [] pre.flatten = [] :=
      held_of_none _ _ _ (noCloud_flatten pre hpre)
    rw [hlast, List.dropLast_concat, hbs, List.append_assoc, samples_append,
      samples_noCloud pre hpre, hcloud, samples_oneCloudLast post last hpost,
      List.flatten_append, pairedImages_append_noCloud none _ _ (noCloud_flatten pre hpre),
      List.replicate_succ', List.append_assoc]
    rfl

/-! ## What the node does, and where it departs from pairing once -/

/-- The publications of every run: the sampling law, the clouds that stay, the
clouds that are overtaken, and the runs in lock step. -/
theorem publications_sample (es : List Event) :
    (∀ i, i < (iterations es).length →
        (published es)[i]? = some (image ((batches es).take i).flatten))
      ∧ (∀ pre mid post b₁ b₂ msg, batches es = pre ++ (b₁ ++ .sonar msg :: b₂) :: (mid ++ post) →
          NoCloud b₂ → (∀ b ∈ mid, NoCloud b) →
          ∀ k, k ≤ mid.length → pre.length + 1 + k < (iterations es).length →
            (published es)[pre.length + 1 + k]?
              = some (transformPointCloud msg (matrixOf (lastPosition
                  (pre ++ (b₁ ++ .sonar msg :: b₂) :: mid.take k).flatten))))
      ∧ (∀ es' pre post b₁ b₂ b₃ msg msg' last,
          batches es = pre ++ (b₁ ++ .sonar msg :: b₂ ++ .sonar last :: b₃) :: post →
          batches es' = pre ++ (b₁ ++ .sonar msg' :: b₂ ++ .sonar last :: b₃) :: post →
            published es = published es')
      ∧ (LockStep es → PairsOnce es) := by
  refine ⟨published_getElem? es, ?_, ?_, pairsOnce_of_lockStep es⟩
  · intro pre mid post b₁ b₂ msg hbs hb₂ hmid k hk hturn
    exact published_span es pre mid post b₁ b₂ msg hbs hb₂ hmid k hk hturn
  · intro es' pre post b₁ b₂ b₃ msg msg' last hbs hbs'
    apply published_congr
    rw [hbs, hbs']
    have hsame : ∀ bs : List (List Callback), List.Forall₂ SameLast bs bs :=
      fun bs => List.forall₂_same.mpr (fun _ _ => ⟨fun _ => rfl, fun _ => rfl⟩)
    exact List.rel_append (hsame pre)
      (List.Forall₂.cons (sameLast_overtaken b₁ b₂ b₃ msg msg' last) (hsame post))

noncomputable def reportAt (a : ℝ) : Callback := .servo ⟨a, a, 0, false⟩

noncomputable def cloudAt (x : ℝ) : Callback := .sonar [⟨x, 0, 0⟩]

/-- Two turns that each handle a cloud, last, and a third one. -/
noncomputable def lockStepRun : List Event :=
  [.arrive (reportAt 0), .arrive (cloudAt 1), .iterate,
    .arrive (reportAt 1), .arrive (cloudAt 2), .iterate, .iterate]

theorem publications_sample_lockStepRun :
    (published lockStepRun)[2]? = some (image ((batches lockStepRun).take 2).flatten)
      ∧ PairsOnce lockStepRun := by
  constructor
  · exact (publications_sample lockStepRun).1 2 (by decide)
  · refine (publications_sample lockStepRun).2.2.2 ⟨[], _, rfl, by simp, ?_⟩
    intro b hb
    rcases List.mem_cons.mp hb with rfl | hb
    · exact ⟨[reportAt 0], _, by simp [NoCloud, reportAt, Callback.cloud?], rfl⟩
    · rw [List.mem_singleton.mp hb]
      exact ⟨[reportAt 1], _, by simp [NoCloud, reportAt, Callback.cloud?], rfl⟩

/-- One cloud, then turns without another. -/
noncomputable def repeatingRun : List Event :=
  [.arrive (reportAt 0), .arrive (cloudAt 1), .iterate, .iterate, .iterate]

/-- Two clouds in one turn. -/
noncomputable def losingRun : List Event :=
  [.arrive (reportAt 0), .arrive (cloudAt 1), .arrive (cloudAt 2), .iterate, .iterate]

/-- A report that arrives after the cloud, in the same turn. -/
noncomputable def lateReportRun : List Event :=
  [.arrive (reportAt 0), .iterate, .arrive (cloudAt 1), .arrive (reportAt Real.pi),
    .iterate, .iterate]

theorem published_repeatingRun :
    published repeatingRun
      = [[], [transformPoint (rotationMatrix 0) ⟨1, 0, 0⟩],
          [transformPoint (rotationMatrix 0) ⟨1, 0, 0⟩]] := by
  rw [published_eq_samples]
  rfl

theorem published_losingRun :
    published losingRun = [[], [transformPoint (rotationMatrix 0) ⟨2, 0, 0⟩]] := by
  rw [published_eq_samples]
  rfl

theorem published_lateReportRun :
    published lateReportRun
      = [[], [], [transformPoint (rotationMatrix Real.pi) ⟨1, 0, 0⟩]] := by
  rw [published_eq_samples]
  rfl

/-- Publishing every cloud once fails in three ways, in runs that handle a
report before the first cloud: a cloud is shown twice, a cloud is never shown,
a cloud is shown under a report handled after it. -/
theorem pairing_fails :
    (ReportFirst repeatingRun ∧ ¬ PairsOnce repeatingRun)
      ∧ (ReportFirst losingRun ∧ ¬ PairsOnce losingRun)
      ∧ (ReportFirst lateReportRun ∧ ¬ PairsOnce lateReportRun) := by
  have hrepeating : ReportFirst repeatingRun := by
    intro msg h
    cases h
  have hlosing : ReportFirst losingRun := by
    intro msg h
    cases h
  have hlate : ReportFirst lateReportRun := by
    intro msg h
    cases h
  refine ⟨⟨hrepeating, ?_⟩, ⟨hlosing, ?_⟩, ⟨hlate, ?_⟩⟩
  · -- one cloud is owed, two publications show one
    rintro ⟨k, hk⟩
    have hpaired : pairedImages none (handledBeforeLastTurn repeatingRun)
        = [[transformPoint (rotationMatrix 0) ⟨1, 0, 0⟩]] := rfl
    rw [published_repeatingRun, hpaired] at hk
    have hlen := congrArg List.length hk
    obtain rfl : k = 2 := by simpa using hlen
    simp [List.replicate] at hk
  · -- two clouds are owed, and the first of them is not shown
    rintro ⟨k, hk⟩
    have hpaired : pairedImages none (handledBeforeLastTurn losingRun)
        = [[transformPoint (rotationMatrix 0) ⟨1, 0, 0⟩],
            [transformPoint (rotationMatrix 0) ⟨2, 0, 0⟩]] := rfl
    rw [published_losingRun, hpaired] at hk
    have hlen := congrArg List.length hk
    obtain rfl : k = 0 := by simpa using hlen
    simp at hk
  · -- the point is owed at angle zero and shown turned by half a turn
    rintro ⟨k, hk⟩
    have hpaired : pairedImages none (handledBeforeLastTurn lateReportRun)
        = [[transformPoint (rotationMatrix 0) ⟨1, 0, 0⟩]] := rfl
    rw [published_lateReportRun, hpaired] at hk
    have hlen := congrArg List.length hk
    obtain rfl : k = 2 := by simpa using hlen
    have hx : (-1 : ℝ) = 1 := by
      simpa [List.replicate, transformPoint, rotationMatrix] using hk
    norm_num at hx

end Sonar3D.Img3D
