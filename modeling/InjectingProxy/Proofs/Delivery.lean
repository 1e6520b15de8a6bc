import InjectingProxy.Delivery

/-!
# What a client receives

A client receives a script as a whole, or up to a message that fails, or up to the message after
which it has gone (`Script.Cut`, `Script.deliver_cut`).  So what it has received is a first part of
the script, not longer than the client allows (`Script.Cut.length_le`,
`Script.countP_deliver_le`), and the use that was made of a body is the one at some place of the
script (`Script.Cut.use_mem`).

A response that does not listen for its client is cut off in one way only: sending fails from some
message on.  Then the client has received the messages before that one, in their order
(`deliver_messages`), and it makes no difference whether it goes away (`deliver_staying`).  A whole
reply is such a response, so the last of its two messages arrives only together with the first
(`messages_eq_of_body_mem`).
-/

set_option autoImplicit false

namespace InjectingProxy

/-- What a client receives of messages while nobody listens for it: those before sending fails. -/
def Client.received (c : Client) (ms : List Message) : List Message :=
  match c.failsAfter with
  | none => ms
  | some k => ms.take k

/-- The same client, if it does not go away. -/
def Client.staying (c : Client) : Client := { c with leavesAfter := none }

namespace Script

/-- The general form for the induction: `sent` messages have gone before. -/
theorem deliverAfter_messages (c : Client) (s : Script) (es : List Emission) : ∀ sent bodies,
    (deliverAfter c false s sent bodies es).messages
      = match c.failsAfter with
        | none => es.map Emission.message
        | some k => (es.map Emission.message).take (k - sent) := by
  induction es with
  | nil => intro sent bodies; cases c.failsAfter <;> simp [deliverAfter]
  | cons e es ih =>
    intro sent bodies
    rw [deliverAfter]
    cases hc : c.failsAfter with
    | none =>
      have hr : c.reaction false sent bodies e.message = .takes := by simp [Client.reaction, hc]
      simp only [hr, ih, hc, List.map_cons]
    | some k =>
      rcases Nat.lt_or_ge sent k with hk | hk
      · have hr : c.reaction false sent bodies e.message = .takes := by
          simp [Client.reaction, hc, Nat.not_le.2 hk]
        simp only [hr, ih, hc, List.map_cons]
        rw [show k - sent = k - (sent + 1) + 1 by omega, List.take_succ_cons]
      · have hr : c.reaction false sent bodies e.message = .fails := by
          simp [Client.reaction, hc, hk]
        simp only [hr, Nat.sub_eq_zero_of_le hk, List.take_zero]

/-- **While nobody listens, a client receives a first part of the messages.** -/
theorem deliver_messages (c : Client) (s : Script) :
    (s.deliver c false).messages = c.received s.messages := by
  rw [deliver, deliverAfter_messages, Client.received]
  rfl

/-- The general form for the induction: `sent` messages have gone before. -/
theorem deliverAfter_staying (c : Client) (s : Script) (es : List Emission) : ∀ sent bodies,
    deliverAfter c.staying false s sent bodies es = deliverAfter c false s sent bodies es := by
  induction es with
  | nil => exact fun _ _ ↦ rfl
  | cons e es ih =>
    intro sent bodies
    have hreaction : c.staying.reaction false sent bodies e.message =
        c.reaction false sent bodies e.message := rfl
    rw [deliverAfter, deliverAfter, hreaction]
    simp only [ih]

/-- **While nobody listens, it makes no difference that a client goes away.** -/
theorem deliver_staying (c : Client) (s : Script) :
    s.deliver c.staying false = s.deliver c false :=
  deliverAfter_staying c s s.emissions 0 0

end Script

/-! ## Where a client stops -/

theorem Message.countP_isBody_append (ms : List Message) (m : Message) :
    (ms ++ [m]).countP Message.isBody =
      if m.isBody then ms.countP Message.isBody + 1 else ms.countP Message.isBody := by
  cases hm : m.isBody <;> simp [List.countP_append, hm]

namespace Client

/-- The client has gone away after these messages, and somebody listens for it. -/
def HasLeft (c : Client) (listening : Bool) (ms : List Message) : Prop :=
  listening = true ∧ ms ≠ [] ∧ c.leavesAfter = some (ms.countP Message.isBody)

/-- What a client does with a message that comes after others, and when. -/
theorem reaction_cases (c : Client) (listening : Bool) (ms : List Message) (m : Message) :
    (c.reaction listening ms.length (ms.countP Message.isBody) m = .fails ∧
        ∃ k, c.failsAfter = some k ∧ k ≤ ms.length) ∨
      (c.reaction listening ms.length (ms.countP Message.isBody) m = .leaves ∧
        (∀ k, c.failsAfter = some k → ms.length < k) ∧ c.HasLeft listening (ms ++ [m])) ∨
      (c.reaction listening ms.length (ms.countP Message.isBody) m = .takes ∧
        (∀ k, c.failsAfter = some k → ms.length < k) ∧ ¬ c.HasLeft listening (ms ++ [m])) := by
  have hleft : c.HasLeft listening (ms ++ [m]) ↔
      (listening && c.leavesAfter == some ((ms ++ [m]).countP Message.isBody)) = true := by
    rw [HasLeft, Bool.and_eq_true, beq_iff_eq]
    exact ⟨fun h ↦ ⟨h.1, h.2.2⟩, fun h ↦ ⟨h.1, by simp, h.2⟩⟩
  rw [reaction, hleft, ← Message.countP_isBody_append]
  by_cases hfails : c.failsAfter.any (· ≤ ms.length) = true
  · obtain ⟨k, hk, hle⟩ := (Option.any_eq_true _ _).1 hfails
    exact .inl ⟨if_pos hfails, k, hk, of_decide_eq_true hle⟩
  · have hlate : ∀ k, c.failsAfter = some k → ms.length < k := by
      intro k hk
      rw [hk] at hfails
      exact Nat.lt_of_not_le fun hle ↦ hfails (decide_eq_true hle)
    rw [if_neg hfails]
    split
    · rename_i h
      exact .inr (.inl ⟨rfl, hlate, h⟩)
    · rename_i h
      exact .inr (.inr ⟨rfl, hlate, h⟩)

end Client

namespace Script

/-- What a client can make of a script: it takes everything, or a message fails, or the client is
gone after one. -/
inductive Cut (c : Client) (listening : Bool) (s : Script) : Delivery → Prop
  | whole (hfails : ∀ k, c.failsAfter = some k → s.emissions.length ≤ k)
      (hleaves : ¬ c.HasLeft listening s.messages) :
      Cut c listening s ⟨s.messages, s.use, s.ending⟩
  | fails {before : List Emission} {e : Emission} {after : List Emission}
      (h : s.emissions = before ++ e :: after) (hfails : c.failsAfter = some before.length)
      (hleaves : ¬ c.HasLeft listening (before.map Emission.message)) :
      Cut c listening s ⟨before.map Emission.message, e.use, .failed .clientGone⟩
  | leaves {before : List Emission} {e : Emission} {after : List Emission}
      (h : s.emissions = before ++ e :: after)
      (hfails : ∀ k, c.failsAfter = some k → before.length < k)
      (hleaves : c.HasLeft listening (before.map Emission.message ++ [e.message])) :
      Cut c listening s ⟨before.map Emission.message ++ [e.message], e.use, .left⟩

/-- The general form for the induction: a part of the script has been taken before. -/
theorem deliverAfter_cut (c : Client) (listening : Bool) (s : Script) (es : List Emission) :
    ∀ before, s.emissions = before ++ es →
      (∀ k, c.failsAfter = some k → before.length ≤ k) →
      ¬ c.HasLeft listening (before.map Emission.message) →
      let d := deliverAfter c listening s (before.map Emission.message).length
        ((before.map Emission.message).countP Message.isBody) es
      s.Cut c listening { d with messages := before.map Emission.message ++ d.messages } := by
  induction es with
  | nil =>
    intro before hs hfails hleaves
    rw [List.append_nil] at hs
    have hmessages : s.messages = before.map Emission.message := by rw [messages, hs]
    simp only [deliverAfter, List.append_nil, ← hmessages]
    exact .whole (hs ▸ hfails) (hmessages ▸ hleaves)
  | cons e es ih =>
    intro before hs hfails hleaves
    rw [deliverAfter]
    rcases c.reaction_cases listening (before.map Emission.message) e.message with
      ⟨hr, k, hk, hle⟩ | ⟨hr, hlate, hleft⟩ | ⟨hr, hlate, hstays⟩
    · -- none of the messages before has failed, so this is the first that can
      rw [List.length_map] at hle
      have hexact : k = before.length := Nat.le_antisymm hle (hfails k hk)
      simp only [hr, List.append_nil]
      exact .fails hs (hexact ▸ hk) hleaves
    · simp only [hr]
      exact .leaves hs (fun k hk ↦ List.length_map Emission.message ▸ hlate k hk) hleft
    · have hnext := ih (before ++ [e]) (by rw [hs, List.append_assoc, List.singleton_append])
        (fun k hk ↦ by
          have := hlate k hk
          rw [List.length_map] at this
          rw [List.length_append, List.length_singleton]
          exact this)
        (by rwa [List.map_append, List.map_singleton])
      have hlength : ((before ++ [e]).map Emission.message).length =
          (before.map Emission.message).length + 1 := by simp
      rw [hlength, List.map_append, List.map_singleton, Message.countP_isBody_append] at hnext
      simp only [hr]
      simpa using hnext

/-- **What a client receives is its script, perhaps cut off.** -/
theorem deliver_cut (c : Client) (listening : Bool) (s : Script) :
    s.Cut c listening (s.deliver c listening) :=
  deliverAfter_cut c listening s s.emissions [] rfl (fun _ _ ↦ Nat.zero_le _) fun h ↦ h.2.1 rfl

namespace Cut

variable {c : Client} {listening : Bool} {s : Script} {d : Delivery}

theorem messages_prefix (h : s.Cut c listening d) : d.messages <+: s.messages := by
  cases h with
  | whole => exact List.prefix_rfl
  | @fails before e after h =>
    exact ⟨(e :: after).map Emission.message, by rw [messages, h, List.map_append]⟩
  | @leaves before e after h =>
    exact ⟨after.map Emission.message, by
      rw [messages, h, List.map_append, List.map_cons, List.append_assoc, List.singleton_append]⟩

/-- Nothing is received from the message on that fails. -/
theorem length_le (h : s.Cut c listening d) {k : Nat} (hk : c.failsAfter = some k) :
    d.messages.length ≤ k := by
  cases h with
  | whole hfails => exact List.length_map Emission.message ▸ hfails k hk
  | fails h hfails =>
    rw [List.length_map]
    exact Nat.le_of_eq (Option.some.inj (hfails.symm.trans hk))
  | leaves h hfails =>
    rw [List.length_append, List.length_map]
    exact hfails k hk

/-- The use that was made of the body is the one at some place of the script. -/
theorem use_mem (h : s.Cut c listening d) : d.use = s.use ∨ ∃ e ∈ s.emissions, d.use = e.use := by
  cases h with
  | whole => exact .inl rfl
  | fails h => exact .inr ⟨_, by rw [h]; exact List.mem_append_right _ List.mem_cons_self, rfl⟩
  | leaves h => exact .inr ⟨_, by rw [h]; exact List.mem_append_right _ List.mem_cons_self, rfl⟩

end Cut

/-- A client that takes everything receives the whole script. -/
theorem deliver_patient (listening : Bool) (s : Script) :
    s.deliver .patient listening = ⟨s.messages, s.use, s.ending⟩ := by
  generalize hd : s.deliver .patient listening = d
  have hcut := hd ▸ s.deliver_cut .patient listening
  cases hcut with
  | whole => rfl
  | fails h hfails => cases hfails
  | leaves h hfails hleaves => cases hleaves.2.2

/-- So does a client that lets no message fail, while nobody listens for it. -/
theorem deliver_of_takes {c : Client} (hc : c.failsAfter = none) (s : Script) :
    s.deliver c false = ⟨s.messages, s.use, s.ending⟩ := by
  generalize hd : s.deliver c false = d
  have hcut := hd ▸ s.deliver_cut c false
  cases hcut with
  | whole => rfl
  | fails h hfails => cases hc.symm.trans hfails
  | leaves h hfails hleaves => cases hleaves.1

/-- The general form for the induction: so many pieces of the body have gone before. -/
theorem countP_deliverAfter_le {c : Client} {k : Nat} (hk : c.leavesAfter = some k) (s : Script)
    (es : List Emission) : ∀ sent bodies, bodies < k →
      bodies + (deliverAfter c true s sent bodies es).messages.countP Message.isBody ≤ k := by
  induction es with
  | nil => exact fun sent bodies h ↦ Nat.le_of_lt h
  | cons e es ih =>
    intro sent bodies h
    rw [deliverAfter]
    generalize hbodies : (if e.message.isBody then bodies + 1 else bodies) = bodies'
    have hle : bodies' ≤ k := by
      split at hbodies <;> omega
    have hcons (ms : List Message) : bodies + (e.message :: ms).countP Message.isBody =
        bodies' + ms.countP Message.isBody := by
      rw [List.countP_cons, ← hbodies]
      split <;> omega
    split
    · exact Nat.le_of_lt h
    · rw [hcons]
      exact hle
    · rename_i hr
      have hne : bodies' ≠ k := by
        rintro rfl
        rw [Client.reaction, hk, hbodies] at hr
        split at hr
        · cases hr
        · simp at hr
      rw [hcons]
      exact ih (sent + 1) bodies' (Nat.lt_of_le_of_ne hle hne)

/-- **A client that leaves after so many pieces of a body receives no more of them**, if a response
begins with something else. -/
theorem countP_deliver_le {c : Client} {k : Nat} (hk : c.leavesAfter = some k) {s : Script}
    {e : Emission} {es : List Emission} (hs : s.emissions = e :: es)
    (he : e.message.isBody = false) :
    (s.deliver c true).messages.countP Message.isBody ≤ k := by
  rw [deliver, hs, deliverAfter]
  have hcons (ms : List Message) :
      (e.message :: ms).countP Message.isBody = ms.countP Message.isBody := by
    rw [List.countP_cons, he]
    rfl
  rcases c.reaction_cases true [] e.message with ⟨hr, -⟩ | ⟨hr, -⟩ | ⟨hr, -, hstays⟩
  · rw [List.length_nil, List.countP_nil] at hr
    simp only [hr]
    exact Nat.zero_le k
  · rw [List.length_nil, List.countP_nil] at hr
    simp only [hr, hcons]
    exact Nat.zero_le k
  · rw [List.length_nil, List.countP_nil] at hr
    have hpos : 0 < k := by
      refine Nat.pos_of_ne_zero fun h ↦ hstays ⟨rfl, by simp, ?_⟩
      rw [List.nil_append, hcons, hk, h]
      rfl
    have := countP_deliverAfter_le hk s es 1 0 hpos
    simp only [hr, he, hcons]
    simpa using this

end Script

namespace Reply

/-- A reply whose body has been received has been received as a whole. -/
theorem messages_eq_of_body_mem {r : Reply} {c : Client} {piece : Bytes}
    (h : Message.body piece false ∈ c.received r.messages) :
    c.received r.messages = r.messages := by
  rw [Client.received] at h ⊢
  cases hc : c.failsAfter with
  | none => rfl
  | some k =>
    rw [hc] at h
    match k with
    | 0 => simp at h
    | 1 => simp [messages] at h
    | k + 2 => simp [messages]

end Reply
end InjectingProxy
