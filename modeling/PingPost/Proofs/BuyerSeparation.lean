import PingPost.Exchange.Script

/-!
Worlds that keep buyers apart.

Two worlds are compared that may treat one buyer, the odd one, differently. They are in accord
(`Accord`) if what they have in common for any other buyer decides what comes of a call to that
buyer and is left alone by the calls to all others. Worlds that answer from scripts are in accord as
long as no answer comes with an act of others (`ScriptedWorld.accord`).
-/

namespace PingPost

section

variable {ω₁ ω₂ : Type}

/-- Whether two calls to a buyer go alike. -/
structure Flight.Like (like : ω₁ → ω₂ → Prop) (buyerId : String) (f₁ : Flight ω₁)
    (f₂ : Flight ω₂) : Prop where
  delayMs : f₁.delayMs = f₂.delayMs
  measuredMs : f₁.measuredMs = f₂.measuredMs
  outcome : f₁.outcome = f₂.outcome
  effect : ∀ r₁ r₂ w₁ w₂, r₁.get? buyerId = r₂.get? buyerId → like w₁ w₂ →
    (f₁.effect r₁ w₁).1.get? buyerId = (f₂.effect r₂ w₂).1.get? buyerId

/-- Whether what happens up to an arrival leaves a buyer alone. -/
structure Flight.Spares (like : ω₁ → ω₂ → Prop) (buyerId : String) (f : Flight ω₁) : Prop where
  registry : ∀ r w, (f.effect r w).1.get? buyerId = r.get? buyerId
  world : ∀ r w₁ w₂, like w₁ w₂ → like (f.effect r w₁).2 w₂

/-- Whether calls to others leave a buyer alone, for all buyers but the odd one. -/
structure Separates [Transport ω₁] (like : String → ω₁ → ω₂ → Prop) (odd : String) : Prop where
  send : ∀ {buyerId w₁ w₂} {r : Request}, buyerId ≠ odd → r.buyerId ≠ buyerId →
    like buyerId w₁ w₂ → like buyerId (Transport.send w₁ r).2 w₂
  spares : ∀ {buyerId w₁ w₂} {r : Request}, buyerId ≠ odd → r.buyerId ≠ buyerId →
    like buyerId w₁ w₂ → (Transport.send w₁ r).1.Spares (like buyerId) buyerId

/-- Whether two worlds treat all buyers but the odd one alike where they are alike for them. -/
structure Accord [Transport ω₁] [Transport ω₂] (like : String → ω₁ → ω₂ → Prop)
    (odd : String) : Prop where
  isAvailable : ∀ {buyerId w₁ w₂}, buyerId ≠ odd → like buyerId w₁ w₂ →
    Transport.isAvailable w₁ buyerId = Transport.isAvailable w₂ buyerId
  flight : ∀ {w₁ w₂} {r : Request}, r.buyerId ≠ odd → like r.buyerId w₁ w₂ →
    (Transport.send w₁ r).1.Like (like r.buyerId) r.buyerId (Transport.send w₂ r).1
  send : ∀ {w₁ w₂} {r : Request}, r.buyerId ≠ odd → like r.buyerId w₁ w₂ →
    like r.buyerId (Transport.send w₁ r).2 (Transport.send w₂ r).2
  first : Separates like odd
  second : Separates (fun buyerId w₂ w₁ => like buyerId w₁ w₂) odd

variable {like : String → ω₁ → ω₂ → Prop} {odd : String}

theorem Flight.Like.symm {buyerId : String} {f₁ : Flight ω₁} {f₂ : Flight ω₂}
    (h : f₁.Like (like buyerId) buyerId f₂) :
    f₂.Like (fun w₂ w₁ => like buyerId w₁ w₂) buyerId f₁ :=
  ⟨h.delayMs.symm, h.measuredMs.symm, h.outcome.symm, fun r₂ r₁ w₂ w₁ hr hw =>
    (h.effect r₁ r₂ w₁ w₂ hr.symm hw).symm⟩

theorem Accord.symm [Transport ω₁] [Transport ω₂] (h : Accord like odd) :
    Accord (fun buyerId w₂ w₁ => like buyerId w₁ w₂) odd :=
  ⟨fun hne hw => (h.isAvailable hne hw).symm, fun hne hw => (h.flight hne hw).symm,
    fun hne hw => h.send hne hw, h.second, h.first⟩

end

/-! ### Scripted worlds -/

/-- Whether nothing else happens up to an answer. -/
structure ScriptedAnswer.Calm (a : ScriptedAnswer) : Prop where
  setUnavailable : a.setUnavailable = []
  setAvailable : a.setAvailable = []
  removeBuyers : a.removeBuyers = []
  putBuyers : a.putBuyers = []

theorem Script.of_set (s : Script) (kind kind' : CallKind) (answers : List ScriptedAnswer) :
    (s.set kind answers).of kind' = if kind' = kind then answers else s.of kind' := by
  cases kind <;> cases kind' <;> rfl

namespace ScriptedWorld

/-- The answers to a kind of call to a buyer. -/
def answers (w : ScriptedWorld) (buyerId : String) (kind : CallKind) : List ScriptedAnswer :=
  ((w.scripts.get? buyerId).getD .empty).of kind

/-- Whether no answer of a world comes with an act of others. -/
def Calm (w : ScriptedWorld) : Prop := ∀ buyerId kind, ∀ a ∈ w.answers buyerId kind, a.Calm

/-- Whether two worlds answer and treat a buyer alike. -/
structure Like (buyerId : String) (w₁ w₂ : ScriptedWorld) : Prop where
  scripts : w₁.scripts.get? buyerId = w₂.scripts.get? buyerId
  available : w₁.unavailable.contains buyerId = w₂.unavailable.contains buyerId
  calm₁ : w₁.Calm
  calm₂ : w₂.Calm

variable {w w₁ w₂ : ScriptedWorld} {r : Request} {buyerId : String}

/-- A call uses up the next answer of its script, but for the last. -/
theorem send_eq (w : ScriptedWorld) (r : Request) :
    Transport.send w r = match w.answers r.buyerId r.kind with
      | [] => (unscripted, { w with sent := w.sent ++ [r] })
      | [a] => (⟨a.delayMs, 0, effect a, a.outcome⟩, { w with sent := w.sent ++ [r] })
      | a :: rest => (⟨a.delayMs, 0, effect a, a.outcome⟩,
          { w with sent := w.sent ++ [r] }.setAnswers r.buyerId r.kind rest) := by
  have hanswers : w.answers r.buyerId r.kind =
      ((w.scripts.get? r.buyerId).map fun s => s.of r.kind).getD [] := by
    unfold answers
    cases w.scripts.get? r.buyerId <;> cases r.kind <;> rfl
  rw [hanswers]
  rfl

theorem send_unavailable (w : ScriptedWorld) (r : Request) :
    (Transport.send w r).2.unavailable = w.unavailable := by
  rw [send_eq]
  split <;> rfl

theorem effect_of_calm {a : ScriptedAnswer} (h : a.Calm) :
    effect a = fun registry w => (registry, w) := by
  obtain ⟨hu, ha, hr, hp⟩ := h
  funext registry w
  simp [effect, hu, ha, hr, hp]

theorem send_effect (h : w.Calm) :
    (Transport.send w r).1.effect = fun registry v => (registry, v) := by
  have hcalm := h r.buyerId r.kind
  rw [send_eq]
  split
  · rfl
  · rename_i a ha
    exact effect_of_calm (hcalm a (ha ▸ List.mem_cons_self))
  · rename_i a rest _ ha
    exact effect_of_calm (hcalm a (ha ▸ List.mem_cons_self))

theorem send_scripts_of_ne (hne : r.buyerId ≠ buyerId) :
    (Transport.send w r).2.scripts.get? buyerId = w.scripts.get? buyerId := by
  rw [send_eq]
  split
  · rfl
  · rfl
  · exact Table.get?_put_of_ne hne.symm _ _

theorem mem_answers_of_send {kind : CallKind} {a : ScriptedAnswer}
    (h : a ∈ (Transport.send w r).2.answers buyerId kind) : a ∈ w.answers buyerId kind := by
  by_cases hne : r.buyerId = buyerId
  · subst hne
    rw [send_eq] at h
    split at h
    · exact h
    · exact h
    · rename_i b rest _ hanswers
      simp only [answers, setAnswers, Table.get?_put_self, Option.getD_some, Script.of_set] at h
      split at h
      · rename_i hkind
        rw [hkind, hanswers]
        exact List.mem_cons_of_mem b h
      · exact h
  · rwa [answers, send_scripts_of_ne hne] at h

theorem Calm.send (h : w.Calm) (r : Request) : (Transport.send w r).2.Calm :=
  fun buyerId kind a ha => h buyerId kind a (mem_answers_of_send ha)

/-- The answer and what is left of the script are decided by the script. -/
theorem send_congr (h : w₁.scripts.get? r.buyerId = w₂.scripts.get? r.buyerId) :
    (Transport.send w₁ r).1 = (Transport.send w₂ r).1 ∧
      (Transport.send w₁ r).2.scripts.get? r.buyerId =
        (Transport.send w₂ r).2.scripts.get? r.buyerId := by
  have hanswers : w₁.answers r.buyerId r.kind = w₂.answers r.buyerId r.kind := by
    rw [answers, answers, h]
  rw [send_eq, send_eq, hanswers]
  split
  · exact ⟨rfl, h⟩
  · exact ⟨rfl, h⟩
  · exact ⟨rfl, by simp [setAnswers, h]⟩

theorem Like.symm (h : Like buyerId w₁ w₂) : Like buyerId w₂ w₁ :=
  ⟨h.scripts.symm, h.available.symm, h.calm₂, h.calm₁⟩

theorem separates (odd : String) : Separates Like odd where
  send _ hne h := ⟨(send_scripts_of_ne hne).trans h.scripts,
    by rw [send_unavailable, h.available], h.calm₁.send _, h.calm₂⟩
  spares _ _ h := by
    refine ⟨fun registry v => ?_, fun registry v₁ v₂ hv => ?_⟩
    · rw [send_effect h.calm₁]
    · rw [send_effect h.calm₁]
      exact hv

/-- Worlds that answer from scripts are in accord. -/
theorem accord (odd : String) : Accord Like odd where
  isAvailable _ h := congrArg not h.available
  flight _ h := by
    rw [(send_congr h.scripts).1]
    refine ⟨rfl, rfl, rfl, fun r₁ r₂ v₁ v₂ hr _ => ?_⟩
    rw [send_effect h.calm₂]
    exact hr
  send _ h := ⟨(send_congr h.scripts).2, by rw [send_unavailable, send_unavailable, h.available],
    h.calm₁.send _, h.calm₂.send _⟩
  first := separates odd
  second := by
    have hflip : (fun buyerId w₂ w₁ => Like buyerId w₁ w₂) = Like := by
      funext buyerId w₂ w₁
      exact propext ⟨Like.symm, Like.symm⟩
    rw [hflip]
    exact separates odd

end ScriptedWorld

end PingPost
