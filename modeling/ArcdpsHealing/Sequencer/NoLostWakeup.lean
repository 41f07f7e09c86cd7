import ArcdpsHealing.Sequencer.Interleaving

namespace ArcdpsHealing.Sequencer

open Lib

variable {args : Nat → Call} {ls : List Label} {l : Label} {w w' : World}

structure Chronicle (args : Nat → Call) (ls : List Label) (w : World) : Prop where
  submitted : ∀ k, .submit k ∈ ls → w.pc k ≠ .idle
  nodup : (called ls).Nodup
  data : ∀ c, .call c ∈ ls → c = args c.id
  order : ∀ pre c post, ls = pre ++ .call c :: post →
    ∃ b, bases pre = [b] ∧ (b + 1 < c.id → c.id - 1 ∈ returned pre)

theorem initial_inv (memory : Slot → QueuedEvent) : Inv args [] (.initial memory) where
  locks := by constructor <;> simp [World.initial, Pc.role]
  ids := by
    constructor <;> simp [World.initial, State.initial, Pc.role, bases, called]
  place := by constructor <;> simp [World.initial, Pc.role]
  custody := by
    constructor <;> simp [World.initial, State.initial, Pc.role, called, State.Holds]
    exact fun k pos _ => pos.ne
  slots := by constructor <;> simp [World.initial, State.initial, Pc.role, returned]
  queue := by constructor <;> simp [World.initial, State.initial, Pc.role]
  scan := by constructor <;> simp [World.initial, Pc.role]
  wake := by constructor <;> simp [World.initial, State.initial]

theorem initial_chronicle (memory : Slot → QueuedEvent) :
    Chronicle args [] (.initial memory) where
  submitted := fun _ mem => absurd mem List.not_mem_nil
  nodup := List.nodup_nil
  data := fun _ mem => absurd mem List.not_mem_nil
  order := fun pre _ _ split => by simp at split

section Step

variable (hargs : ∀ k, (args k).id = k) (h : Inv args ls w)
include hargs h

theorem call_step {c : Call} (step : Step args w (.call c) w') :
    c.id ∉ called ls ∧ c = args c.id ∧
      ∃ b, bases ls = [b] ∧ (b + 1 < c.id → c.id - 1 ∈ returned ls) := by
  -- When a callback starts, everything before its event has been delivered.
  have known : ∀ k, ¬ (w.pc k).role.early → ∃ b, b ≤ w.st.highestId ∧ bases ls = [b] := by
    intro k late
    exact (h.ids.base fun unset => late ((h.ids.fresh unset).2.2 k)).2
  have upTo : ∀ b, bases ls = [b] → b + 1 < w.st.highestId + 1 →
      w.st.highestId ∈ returned ls := by
    intro b bases lt
    exact h.ids.delivered b (bases ▸ List.mem_singleton_self b) _ (by omega) le_rfl
  cases step with
  | @invoke k b pc =>
    have mine := h.custody.mine k (h.ids.range k (by simp [pc])).1 (by rw [pc]; rfl)
    rw [hargs]
    obtain ⟨base, le, bases⟩ := known k (by rw [pc]; exact id)
    refine ⟨mine.1, rfl, base, bases, fun lt => ?_⟩
    have sound := h.ids.sound k
    have direct := h.place.direct k base
    have fast := h.place.fast k
    have upTo := upTo base bases
    grind [Pc.role]
  | @invokeDelayed k n i z pc =>
    have next := h.scan.delayed k i (by rw [pc]; rfl)
    have busy : (w.st.queuedEvents i).id ≠ 0 := by omega
    rw [QueuedEvent.id_load]
    refine ⟨fun mem => ?_, h.slots.load i busy, ?_⟩
    · -- only the owner of the lock could have started it, and that is `k`
      obtain ⟨j, underway⟩ := h.slots.once i busy mem
      have owns := Pc.owns_of_delayed (Pc.delayed_of_underway underway)
      have same := owner_eq h owns (k := k) (by rw [pc]; trivial)
      rw [same, pc] at underway
      cases underway
    · obtain ⟨base, le, bases⟩ := known k (by rw [pc]; exact id)
      refine ⟨base, bases, fun lt => ?_⟩
      rw [next] at lt ⊢
      exact upTo base bases lt

theorem chronicle_step (chronicle : Chronicle args ls w) (step : Step args w l w') :
    Chronicle args (ls ++ [l]) w' where
  submitted := by
    intro k mem
    have submitted := chronicle.submitted k
    cases step with
    | load | retry => grind [route]
    | returning => grind [afterCallback, cases Branch]
    | inspect => grind [inspect]
    | scanEnd => grind [scanEnd]
    | _ => grind
  nodup := by
    rw [called_snoc]
    cases l with
    | call c =>
      refine List.Nodup.append chronicle.nodup (List.nodup_singleton _) ?_
      exact List.disjoint_singleton.mpr (call_step hargs h step).1
    | _ => simpa [Label.called] using chronicle.nodup
  data := by
    intro c mem
    cases List.mem_append.mp mem with
    | inl mem => exact chronicle.data c mem
    | inr mem =>
      rw [← List.mem_singleton.mp mem] at step
      exact (call_step hargs h step).2.1
  order := by
    intro pre c post split
    cases post using List.reverseRecOn with
    | nil =>
      obtain ⟨rfl, same⟩ := List.append_inj' split rfl
      rw [List.cons.inj same |>.1] at step
      exact (call_step hargs h step).2.2
    | append_singleton post _ =>
      rw [← List.cons_append, ← List.append_assoc] at split
      exact chronicle.order pre c post (List.append_inj' split rfl).1

end Step

theorem run_inv (hargs : ∀ k, (args k).id = k) {memory : Slot → QueuedEvent}
    (run : Run (Step args) (.initial memory) ls w)
    (fits : ∀ index, .fetch index ∈ ls → index < maxQueuedEvents) :
    Inv args ls w ∧ Chronicle args ls w := by
  refine run.history (P := fun ls w => Inv args ls w ∧ Chronicle args ls w)
    (fun l => ∀ index, l = .fetch index → index < maxQueuedEvents) ?_
    ⟨initial_inv memory, initial_chronicle memory⟩ ?_
  · intro ls t l u ⟨inv, chronicle⟩ fits step
    exact ⟨inv_step hargs inv step fits, chronicle_step hargs inv chronicle step⟩
  · intro l mem index fetch
    exact fits index (fetch ▸ mem)

/-- No lost wake-up, for any number of calls and every interleaving. -/
theorem no_lost_wakeup (args : Nat → Call) (hargs : ∀ k, (args k).id = k)
    (memory : Slot → QueuedEvent) (ls : List Label) (w : World)
    (run : Run (Step args) (.initial memory) ls w)
    (fits : ∀ index, .fetch index ∈ ls → index < maxQueuedEvents) :
    (∀ k, w.pc k ≠ .assertFailed) ∧
    (∀ base ∈ bases ls, ∀ pre c post, ls = pre ++ .call c :: post → base + 1 < c.id →
      c.id - 1 ∈ returned pre) ∧
    (called ls).Nodup ∧ (∀ c, .call c ∈ ls → c = args c.id) ∧
    ((∀ k, w.pc k = .idle ∨ w.pc k = .done) →
      (∀ i, (w.st.queuedEvents i).id ≠ w.st.highestId + 1) ∧
      (∀ k, .submit k ∈ ls →
        (k ∈ returned ls ∧ ¬ w.st.Holds k) ∨
        (k ∉ called ls ∧ ∃! i, (w.st.queuedEvents i).id = k)) ∧
      (w.st.queuedEventCount = 0 ↔ ∀ i, (w.st.queuedEvents i).id = 0)) := by
  obtain ⟨inv, chronicle⟩ := run_inv hargs run fits
  refine ⟨fun k failed => ?_, fun base mem pre c post split lt => ?_, chronicle.nodup,
    chronicle.data, fun quiet => ⟨fun i due => ?_, fun k mem => ?_, fun empty i => ?_, ?_⟩⟩
  · have sound := inv.ids.sound k
    rw [failed] at sound
    exact sound
  · obtain ⟨b, before, done⟩ := chronicle.order pre c post split
    -- only one value is ever registered
    have known : w.st.highestId ≠ unregistered := by
      intro unset
      rw [(inv.ids.fresh unset).1] at mem
      cases mem
    obtain ⟨-, b', -, all⟩ := inv.ids.base known
    rw [split] at all
    have first : b ∈ bases (pre ++ .call c :: post) := by
      rw [bases, List.filterMap_append]
      exact List.mem_append_left _ (by rw [← bases, before]; exact List.mem_singleton_self b)
    rw [split, all, List.mem_singleton] at mem
    rw [all, List.mem_singleton] at first
    exact done (by omega)
  · obtain ⟨f, visits⟩ := inv.wake.awake i due
    cases quiet f with
    | inl pc => simp [pc, Pc.Visits, Pc.role] at visits
    | inr pc => simp [pc, Pc.Visits, Pc.role] at visits
  · have pc : w.pc k = .done := (quiet k).resolve_left (chronicle.submitted k mem)
    have pos := pos_of_phase inv (k := k) (by rw [pc]; simp [Pc.role])
    cases inv.custody.parked k (by rw [pc]; rfl) with
    | inl delivered => exact .inl delivered
    | inr held =>
      obtain ⟨i, hi⟩ := held
      refine .inr ⟨fun called => ?_, i, hi, ?_⟩
      · obtain ⟨f, underway⟩ := inv.slots.once i (by omega) (hi ▸ called)
        cases quiet f with
        | inl pc => simp [pc, Pc.role] at underway
        | inr pc => simp [pc, Pc.role] at underway
      · intro j hj
        exact inv.slots.inj j i (by omega) (hj.trans hi.symm)
  · by_contra busy
    have := inv.queue.used i busy
    omega
  · intro empty
    by_contra busy
    cases inv.wake.pending busy with
    | inl holds =>
      obtain ⟨i, hi⟩ := holds
      exact hi (empty i)
    | inr engaged =>
      obtain ⟨f, engaged⟩ := engaged
      cases quiet f with
      | inl pc => simp [pc, Pc.role] at engaged
      | inr pc => simp [pc, Pc.role] at engaged

theorem waiting_run : ∃ w, Run (Step .bare) (.initial fun _ => .zeroed)
    [.submit 1, .internal, .register 0, .internal, .call (.bare 1), .ret (.bare 1), .internal,
      .internal, .submit 3, .internal, .internal, .internal, .fetch 0, .internal, .internal,
      .internal] w ∧
    (w.pc 1 = .done ∧ w.pc 3 = .done) ∧ ∀ k, k ≠ 1 → k ≠ 3 → w.pc k = .idle := by
  have start : Run (Step .bare) (.initial fun _ => .zeroed) [] (.initial fun _ => .zeroed) := .nil
  have one := start
    |>.snoc (.submit (k := 1) rfl (by decide) (by decide))
    |>.snoc (.load (k := 1) rfl)
    |>.snoc (.registerFirst (k := 1) rfl rfl)
    |>.snoc (.load (k := 1) rfl)
    |>.snoc (.invoke (k := 1) rfl)
    |>.snoc (.returning (k := 1) rfl)
    |>.snoc (.advance (k := 1) rfl rfl)
    |>.snoc (.probeEmpty (k := 1) rfl rfl)
  have three := one
    |>.snoc (.submit (k := 3) rfl (by decide) (by decide))
    |>.snoc (.load (k := 3) rfl)
    |>.snoc (.lockShared (k := 3) rfl rfl)
    |>.snoc (.recheck (k := 3) rfl rfl)
    |>.snoc (.reserve (k := 3) rfl (by decide))
    |>.snoc (.confirm (k := 3) rfl rfl)
    |>.snoc (.store (k := 3) rfl)
    |>.snoc (.release (k := 3) rfl)
  refine ⟨_, three, ⟨rfl, rfl⟩, fun k one three => ?_⟩
  simp [World.pc_goto, one, three, World.initial]

theorem no_lost_wakeup_waiting : ∃ ls w, Run (Step .bare) (.initial fun _ => .zeroed) ls w ∧
    .submit 3 ∈ ls ∧ (∀ k, w.pc k = .idle ∨ w.pc k = .done) ∧
    ∀ i, (w.st.queuedEvents i).id ≠ w.st.highestId + 1 := by
  obtain ⟨w, run, finished, idle⟩ := waiting_run
  have quiet : ∀ k, w.pc k = .idle ∨ w.pc k = .done := by
    intro k
    by_cases one : k = 1
    · exact .inr (one ▸ finished.1)
    by_cases three : k = 3
    · exact .inr (three ▸ finished.2)
    · exact .inl (idle k one three)
  have all := no_lost_wakeup .bare (fun _ => rfl) (fun _ => .zeroed) _ w run (by simp; decide)
  exact ⟨_, w, run, by simp, quiet, (all.2.2.2.2 quiet).1⟩

end ArcdpsHealing.Sequencer
