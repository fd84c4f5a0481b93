import PointExchange.Proofs.Budget
import PointExchange.Proofs.Inclusion

/-!
# A batch can be estimated and signed

A batch is estimated in three orders before it is signed: as a trial, which accepts a call, with the
permits in front, and without them. Estimates of a simulated chain do not depend on the order. So
what a trial has shown about the calls in hand is enough for the estimates after it: no drain stops
because its batch has no estimate, every batch can be signed, and none that is signed has a call
that would fail (`batches_are_signed`).
-/

namespace PointExchange

namespace SimulatedChain

/-- A trial that fits was estimated. -/
theorem available_of_judgement {c : SimulatedChain} {budget : UInt64} {trial : List Bytes}
    {alone : Bool} (h : c.judgement budget trial alone = .ok none) :
    c.estimateUnavailable = false := by
  cases hu : c.estimateUnavailable with
  | false => rfl
  | true => simp [judgement, estimate, hu] at h

/-- No permit fails: it is of no account. -/
theorem not_rejects_permit (c : SimulatedChain) {p : Bytes} (h : IsPermit p) :
    c.rejects p = false := by
  obtain ⟨call, rfl⟩ := h
  rw [rejects, accountOf?_permit]
  rfl

end SimulatedChain

/-! ## What is in hand -/

/-- No call in hand fails on the chain, and the chain gives estimates if there is one. -/
structure Batch.Estimable (b : Batch) (c : SimulatedChain) : Prop where
  calls : ∀ call ∈ b.calls, c.rejects call = false
  permits : ∀ p ∈ b.permits, IsPermit p
  available : b.calls ≠ [] → c.estimateUnavailable = false

namespace Batch.Estimable

variable {b : Batch} {c c' : SimulatedChain}

theorem empty (c : SimulatedChain) : Batch.Estimable {} c := by
  refine ⟨?_, ?_, ?_⟩
  · intro call hc
    exact absurd hc List.not_mem_nil
  · intro p hp
    exact absurd hp List.not_mem_nil
  · intro h
    exact absurd rfl h

/-- What runs leave behind on a chain does not matter. -/
theorem of_bare (h : b.Estimable c) (same : c'.bare = c.bare) : b.Estimable c' := by
  have hrejects : c'.rejects = c.rejects := (congrArg SimulatedChain.rejects same :)
  have havailable : c'.estimateUnavailable = c.estimateUnavailable :=
    (congrArg SimulatedChain.estimateUnavailable same :)
  refine ⟨?_, h.permits, ?_⟩
  · rw [hrejects]
    exact h.calls
  · rw [havailable]
    exact h.available

theorem prepared {b' : Batch} (h : b.Estimable c) (prepared : b.Prepared b') : b'.Estimable c := by
  refine ⟨?_, ?_, ?_⟩
  · rw [prepared.calls]
    exact h.calls
  · rw [prepared.permits]
    exact h.permits
  · rw [prepared.calls]
    exact h.available

/-- **What is in hand has an estimate, in whatever order.** -/
theorem estimate_ne_error (h : b.Estimable c) {left : Nat} (sized : b.Sized (2 ^ 65) left)
    (calls : b.calls ≠ []) {some : List Bytes} (mem : ∀ x ∈ some, x ∈ b.calls ++ b.permits)
    (le : some.length ≤ b.calls.length + b.permits.length) (e : EstimateError) :
    (c.estimate SimulatedChain.pointManager (encodeMulticall some)).1 ≠ .error e := by
  obtain ⟨hc, -⟩ := sized.carriable (by decide) mem le
  refine SimulatedChain.estimate_ne_error (h.available calls) hc (fun x hx => ?_) e
  rcases List.mem_append.mp (mem x hx) with hx | hx
  · exact h.calls x hx
  · exact c.not_rejects_permit (h.permits x hx)

end Batch.Estimable

section Offers

variable {start : SimulatedChain} {settings : BatchConfig} {m : Message} {b b' : Batch}
  {w : Bench SimulatedChain} {o : Offer} {left : Nat}

/-- A permit may stay without its call. -/
theorem Offered.estimable_keepPermits (h : Offered start settings m b w o b')
    {c : SimulatedChain} (est : b.Estimable c) : (b'.keepPermits o).Estimable c := by
  have hb := est.prepared h.prepared
  refine ⟨hb.calls, ?_, hb.available⟩
  intro p hp
  rcases List.mem_append.mp hp with hp | hp
  · exact hb.permits p hp
  · exact h.permits p hp

/-- An accepted call was estimated in its trial. -/
theorem Offered.estimable_accept (h : Offered start settings m b w o b')
    (sized : b.Sized (2 ^ 65) (left + 1)) (hm : ∀ b ∈ m.signature, b.length < 2 ^ 64)
    (judged : w.chain.judgement settings.gasBudget o.trial b.isEmpty = .ok none)
    (est : b.Estimable w.chain) : (b'.accept m.id o).Estimable w.chain := by
  have hcarriable := h.carriable_trial sized (by decide) hm
  have htrial := SimulatedChain.not_rejects_of_judgement hcarriable judged
  have hkept := h.estimable_keepPermits est
  obtain ⟨front, ht, -⟩ := h.trial_eq
  refine ⟨?_, hkept.permits, fun _ => SimulatedChain.available_of_judgement judged⟩
  intro call hc
  rcases List.mem_append.mp hc with hc | hc
  · exact hkept.calls call hc
  · apply htrial
    rw [ht]
    exact List.mem_append_right _ hc

/-- **Whatever becomes of a message, what is in hand can be estimated.** -/
theorem Handled.estimable {d d' : Drafting (Bench SimulatedChain)} {res : Except Fault Verdict}
    (h : Handled start settings m d res d') (sized : d.batch.Sized (2 ^ 65) (left + 1))
    (hm : ∀ b ∈ m.signature, b.length < 2 ^ 64) (est : d.batch.Estimable d.env.chain) :
    d'.batch.Estimable d'.env.chain := by
  cases h with
  | rejected e w task env => exact est.of_bare (congrArg (fun w => w.chain.bare) env :)
  | broken fault b w prepared why env =>
    exact (est.prepared prepared).of_bare (congrArg (fun w => w.chain.bare) env :)
  | dropped o b w offered judged env =>
    exact (offered.estimable_keepPermits est).of_bare (congrArg (fun w => w.chain.bare) env :)
  | deferred o b w gas budget offered judged env =>
    exact (est.prepared offered.prepared).of_bare (congrArg (fun w => w.chain.bare) env :)
  | accepted o b w offered judged env =>
    exact (offered.estimable_accept sized hm judged est).of_bare
      (congrArg (fun w => w.chain.bare) env :)

/-- An estimate of the batch leaves it as it is. -/
theorem Batch.Estimable.estimated {d : Drafting (Bench SimulatedChain)}
    (h : d.batch.Estimable d.env.chain) : d.estimated.batch.Estimable d.estimated.env.chain :=
  h.of_bare (SimulatedChain.bare_estimate d.env.chain _ _)

/-- A message that is accepted leaves a batch of at least one call. -/
theorem Handled.calls_ne_nil {d d' : Drafting (Bench SimulatedChain)}
    (h : Handled start settings m d (.ok .accepted) d') : d'.batch.calls ≠ [] := by
  cases h with
  | accepted o b w => exact List.append_ne_nil_of_right_ne_nil _ (List.cons_ne_nil _ _)

end Offers

/-! ## Drains -/

section Drains

variable {start : SimulatedChain} {settings : BatchConfig}

/-- The check after an acceptance does not fail for want of an estimate. -/
theorem Drafting.checkBudget_ne_estimateFailed {d d' : Drafting (Bench SimulatedChain)}
    {budget : UInt64} {left : Nat} {stop : StopReason} (sized : d.batch.Sized (2 ^ 65) left)
    (est : d.batch.Estimable d.env.chain) (calls : d.batch.calls ≠ [])
    (checked : d.checkBudget start.tools budget = (some stop, d')) (reason : String) :
    stop ≠ .estimateFailed reason := by
  rw [checkBudget_eq] at checked
  have hstop := (Prod.mk.inj checked).1
  cases he : (d.env.chain.estimate SimulatedChain.pointManager
      (encodeMulticall (d.batch.permits ++ d.batch.calls))).1 with
  | error e =>
    -- the check has the permits in front, but the same calls and permits as are in hand
    refine absurd he (est.estimate_ne_error sized calls (fun x hx => ?_) ?_ e)
    · exact List.mem_append.mpr (List.mem_append.mp hx).symm
    · exact Nat.le_of_eq (by rw [List.length_append, Nat.add_comm])
  | ok gas =>
    rw [he] at hstop
    by_cases hg : gas ≤ budget
    · simp [hg] at hstop
    · rintro rfl
      simp [hg] at hstop

/-- **No drain stops because its batch has no estimate,** and what it leads to can be estimated. -/
theorem Course.estimable {n : Nat} {q : MessageQueue} {d : Drafting (Bench SimulatedChain)}
    {ending : Ending} {r : Drained (Bench SimulatedChain)}
    (h : Course start.tools settings n q d ending r)
    (sized : d.batch.Sized (2 ^ 65) q.payloads.length) (fits : PayloadsFit q.payloads)
    (est : d.batch.Estimable d.env.chain) :
    r.batch.Estimable r.site.env.chain ∧ (∃ left, r.batch.Sized (2 ^ 65) left) ∧
      ∀ reason, r.stop ≠ .estimateFailed reason := by
  -- on the course of the drain: every round leaves a batch that can be estimated
  induction h with
  | halted stop why =>
    refine ⟨est, ⟨_, sized⟩, ?_⟩
    rintro reason rfl
    cases why
  | undecodable p rest e room queue decoded next ih =>
    rw [queue] at sized fits
    exact ih sized.pass fits.tail est
  | dropped p rest m d' room queue decoded handled next ih =>
    rw [queue] at sized fits
    have hh := Drafting.handled_of handled
    have hm := fits.head decoded
    exact ih (hh.sized sized hm) fits.tail (hh.estimable sized hm est)
  | @accepted n q d ending r p rest m d' d'' room queue decoded handled checked next ih =>
    rw [queue] at sized fits
    have hh := Drafting.handled_of handled
    have hm := fits.head decoded
    rw [Drafting.checkBudget_eq] at checked
    obtain rfl := (Prod.mk.inj checked).2
    exact ih (hh.sized sized hm) fits.tail (hh.estimable sized hm est).estimated
  | @full n q d p rest m d' d'' stop room queue decoded handled checked =>
    rw [queue] at sized fits
    have hh := Drafting.handled_of handled
    have hm := fits.head decoded
    have hsized := hh.sized sized hm
    have hest := hh.estimable sized hm est
    have hstop := Drafting.checkBudget_ne_estimateFailed hsized hest hh.calls_ne_nil checked
    rw [Drafting.checkBudget_eq] at checked
    obtain rfl := (Prod.mk.inj checked).2
    exact ⟨hest.estimated, ⟨_, hsized⟩, hstop⟩
  | deferred p rest m d' gas budget queue decoded handled =>
    rw [queue] at sized fits
    have hh := Drafting.handled_of handled
    have hm := fits.head decoded
    exact ⟨hh.estimable sized hm est, ⟨_, hh.sized sized hm⟩, by simp [Drafting.close]⟩
  | failed p rest m d' fault queue decoded handled =>
    rw [queue] at sized fits
    have hh := Drafting.handled_of handled
    have hm := fits.head decoded
    exact ⟨hh.estimable sized hm est, ⟨_, hh.sized sized hm⟩, by simp [Drafting.close]⟩

theorem drain_estimable (start : SimulatedChain) (settings : BatchConfig) {q : MessageQueue}
    (fits : PayloadsFit q.payloads) (w : Bench SimulatedChain) (n : Nat) :
    let r := (Drafting.mk {} w).drain start.tools settings n q
    r.batch.Estimable r.site.env.chain ∧ (∃ left, r.batch.Sized (2 ^ 65) left) ∧
      ∀ reason, r.stop ≠ .estimateFailed reason := by
  obtain ⟨ending, h⟩ := course start.tools settings n q ⟨{}, w⟩
  have hcount := fits.count
  exact h.estimable (.empty (by omega)) fits (.empty _)

end Drains

/-! ## Runs -/

section Runs

variable {start : SimulatedChain} {b : Batch} {left : Nat}

/-- A batch that can be estimated is signed if the relayer has its key. -/
theorem Submits.ne_notSigned {w w' : Bench SimulatedChain} {i : UInt64} {account : Address}
    {o : BatchOutcome} {k : Signer} (h : Submits w i account b (.ok o, w'))
    (est : b.Estimable w.chain) (sized : b.Sized (2 ^ 65) left) (calls : b.calls ≠ [])
    (key : keyAt .relayer w.chain.relayers i = .ok k) : o ≠ .notSigned := by
  cases h with
  | notSigned w' why env =>
    rcases why with ⟨e, he⟩ | hk
    · exact absurd he (est.estimate_ne_error sized calls
        (fun x hx => List.mem_append_left _ hx) (Nat.le_add_right _ _) e)
    · exact absurd key (hk k)
  | ledgerFailed | refused | included => simp

/-- A run that sends a batch that can be estimated does not report that it was not signed. -/
theorem Sends.ne_notSigned {turns : Nat → List Turn} {w w' : Bench SimulatedChain}
    {stop : StopReason} {report : RunReport} (h : Sends start turns w b stop (.ok report, w'))
    (keys : w.chain.relayers = start.relayers) (est : b.Estimable w.chain)
    (sized : b.Sized (2 ^ 65) left) : report.batch ≠ some .notSigned := by
  cases h with
  | sent i k ts w₁ w₂ outcome count indices relayer permits counted calls turned =>
    cases calls with
    | none => simp
    | some o w' hne submits =>
      have hkey : keyAt .relayer w₁.chain.relayers i = .ok k := by
        rw [permits.env.relayers, keys, relayer.key]
      have hest := est.of_bare permits.env.chain.bare
      simpa using submits.ne_notSigned hest sized hne hkey

/-- A multicall that is signed for a batch has no call that fails. -/
theorem SignedRecord.SignedFor.not_rejects {t : SignedRecord} {relayer : UInt64}
    {c : SimulatedChain} (h : t.SignedFor relayer b c) (est : b.Estimable c)
    (sized : b.Sized (2 ^ 65) left) {calls : List Bytes}
    (multicall : decodeMulticall? t.request.input = some calls) :
    ∀ call ∈ calls, c.rejects call = false := by
  rcases h.purpose with ⟨-, hi⟩ | ⟨-, hi, -⟩
  · rw [SimulatedChain.decodeMulticall?_permit (est.permits _ hi)] at multicall
    simp at multicall
  · obtain ⟨hc, -⟩ := sized.carriable (by decide)
      (fun x hx => List.mem_append_left b.permits hx) (Nat.le_add_right _ _)
    rw [hi, decodeMulticall?_encodeMulticall hc] at multicall
    rw [← Option.some.inj multicall]
    exact est.calls

theorem SimulatedChain.not_mem_reverting {c : SimulatedChain} {call : Bytes} {a : Address}
    (h : c.rejects call = false) (account : accountOf? call = some a) : a ∉ c.reverting := by
  rw [rejects, account, Option.any_some] at h
  simpa using h

/-- The multicalls that a run signs have no calls that fail. -/
theorem Site.signs_no_failing (how : Schedule) {s : Site (Bench SimulatedChain)}
    (fits : PayloadsFit s.queue.payloads) :
    ∃ ts, (s.run start how).2.env.chain.signed = s.env.chain.signed ++ ts ∧
      ∀ t ∈ ts, ∀ calls, decodeMulticall? t.request.input = some calls →
        ∀ call ∈ calls, s.env.chain.rejects call = false := by
  have hcomes := s.comes start how
  generalize s.run start how = res at hcomes
  cases hcomes with
  | unreadable | skipped => exact ⟨[], (List.append_nil _).symm, by simp⟩
  | idle config l l' d settings drained drain =>
    exact ⟨[], (drain_authorizes drain).2.trans (List.append_nil _).symm, by simp⟩
  | sent config l l' d res w settings drained drain empty sent =>
    obtain ⟨ts, hts, hsigned⟩ := send_signs sent
    have hest := drain_estimable start config.batch fits (s.env.withLock l) 0
    obtain ⟨log, hdrains⟩ := drains start config.batch 0 s.queue ⟨{}, s.env.withLock l⟩
    rw [(drain_authorizes drain).2] at hts
    rw [drain] at hest hdrains
    obtain ⟨est, ⟨left, sized⟩, -⟩ := hest
    have hquiet : d.site.env.chain.quiet = s.env.chain.quiet := hdrains.quiet
    refine ⟨ts, hts, fun t ht calls multicall call hc => ?_⟩
    rw [← SimulatedChain.rejects_congr hquiet]
    exact (hsigned t ht).not_rejects est sized multicall call hc

end Runs

/-- **A batch that was put together can be estimated and signed.** No drain stops because its batch
has no estimate, no run reports that its batch was not signed, and no multicall that a run signs has
a deposit or a withdrawal of an account whose calls fail. -/
theorem batches_are_signed (start : SimulatedChain) (how : Schedule)
    (s : Site (Bench SimulatedChain)) (keys : s.env.chain.relayers = start.relayers)
    (fits : PayloadsFit s.queue.payloads) :
    (∀ reason, (s.drain start.tools).stop ≠ .estimateFailed reason) ∧
    (∀ d, s.drained start how = some d → ∀ reason, d.stop ≠ .estimateFailed reason) ∧
    (∀ report s', s.run start how = (.ok (.completed report), s') →
      report.batch ≠ some .notSigned) ∧
    ∃ ts, (s.run start how).2.env.chain.signed = s.env.chain.signed ++ ts ∧
      ∀ t ∈ ts, ∀ calls, decodeMulticall? t.request.input = some calls →
        ∀ call ∈ calls, ∀ a, SimulatedChain.accountOf? call = some a →
          a ∉ s.env.chain.reverting := by
  refine ⟨?drain, ?drained, ?report, ?signed⟩
  case drain =>
    intro reason
    cases hc : s.env.settings.read with
    | error e =>
      rw [Site.drain, show start.tools.config s.env = s.env.settings.read from rfl, hc]
      simp
    | ok config =>
      rw [Site.drain_eq start s hc]
      exact (drain_estimable start config.batch fits s.env 0).2.2 reason
  case drained =>
    intro d drained
    obtain ⟨config, l, -, rfl⟩ := Site.drain_of_drained drained
    exact (drain_estimable start config.batch fits (s.env.withLock l) 0).2.2
  case report =>
    intro report s' hrun
    have hruns := runs start how s keys
    rw [hrun] at hruns
    obtain ⟨l, l', log, d, w, drained, hdrains, hsends, -⟩ := hruns.sends
    obtain ⟨config, l, -, rfl⟩ := Site.drain_of_drained drained
    obtain ⟨est, ⟨left, sized⟩, -⟩ :=
      drain_estimable start config.batch fits (s.env.withLock l) 0
    exact hsends.ne_notSigned ((congrArg SimulatedChain.relayers hdrains.quiet :).trans keys) est
      sized
  case signed =>
    obtain ⟨ts, hts, hsigned⟩ := s.signs_no_failing how fits
    refine ⟨ts, hts, fun t ht calls multicall call hc a account => ?_⟩
    exact SimulatedChain.not_mem_reverting (hsigned t ht calls multicall call hc) account

/-- A run at the site with one deposit signs a batch. -/
theorem Site.oneDeposit_signs : ∃ t ∈ (oneDeposit.run oneDeposit.env.chain {}).2.env.chain.signed,
    t.request.target = SimulatedChain.pointManager := by
  obtain ⟨report, s', hash, d, hrun, hbatch, -⟩ := oneDeposit_completed
  have hr := runs oneDeposit.env.chain {} oneDeposit rfl
  rw [hrun] at hr ⊢
  obtain ⟨l, l', log, d, w, -, -, sends, rfl⟩ := hr.sends
  cases sends with
  | sent i k ts w₁ w₂ outcome count indices relayer permits counted calls turned =>
    replace hbatch : outcome = some (.broadcast hash) := hbatch
    subst hbatch
    cases calls with
    | some o w' hne submits =>
      cases submits with
      | included t u w' transaction =>
        obtain ⟨k', -, hof⟩ := transaction.record
        exact ⟨t, transaction.mem, hof.target⟩

/-- The run at the site with one deposit reports a batch that was signed. -/
theorem batches_are_signed_oneDeposit :
    PayloadsFit Site.oneDeposit.queue.payloads ∧
      ∃ report s', Site.oneDeposit.run Site.oneDeposit.env.chain {} =
          (.ok (.completed report), s') ∧
        report.batch ≠ some .notSigned ∧
        ∃ t ∈ s'.env.chain.signed, t.request.target = SimulatedChain.pointManager ∧
          ∀ calls, decodeMulticall? t.request.input = some calls →
            ∀ call ∈ calls, ∀ a, SimulatedChain.accountOf? call = some a →
              a ∉ Site.oneDeposit.env.chain.reverting := by
  obtain ⟨-, -, hreport, ts, hts, hsigned⟩ :=
    batches_are_signed Site.oneDeposit.env.chain {} Site.oneDeposit rfl Site.oneDeposit_fits
  obtain ⟨report, s', hash, d, hrun, -⟩ := Site.oneDeposit_completed
  obtain ⟨t, ht, target⟩ := Site.oneDeposit_signs
  rw [hrun] at ht hts
  refine ⟨Site.oneDeposit_fits, report, s', hrun, hreport report s' hrun, t, ht, target, ?_⟩
  rw [hts] at ht
  exact hsigned t ht

end PointExchange
