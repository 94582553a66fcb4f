import KeySynth.Proofs.Engine.Handed
import KeySynth.Proofs.Trigger.Level

/-!
What an engine sends, and the triggers that see it.

An engine's own events reach the hooks like anybody's. Their tag tells the level that they were sent
at, and a trigger's variant listens only to what lies above its own.
-/

namespace KeySynth

namespace Engine

variable {P : Type} [Platform P] {e : Engine P} {q : Request} {r : Run P}

/-- **An engine does not trigger itself.** Nothing but what it sends is handed to the system, and
all that it sends carries the tag of its level, but for the taps of the mask key. Wherever a run
taps it, alone or around a modifier, those are to be ignored by every hook, and nothing else is; a
mask key that nothing else moves is never sent otherwise. No variant that listens to higher levels
only is launched, queued or set to run again by any of it. -/
theorem sent_fires_nothing (hlevel : e.settings.sendLevel.toNat ≤ Tag.maxLevel)
    (hr : e.runOf q = some r) :
    Handed r.Travels e.platform (e.serve q).platform ∧
      Signed (.ofLevel e.settings.sendLevel) r.backend e.maskKey r.sent ∧
      Tag.ofLevel e.settings.sendLevel ≠ .ignore ∧
      (∀ s : Run P,
        (∃ d u, d.Disguises s.backend s.maskKey false ∧ u.Disguises s.backend s.maskKey true ∧
          s.maskDown.maskUp.sent = s.sent ++ [d, u]) ∧
        ∀ m, ∃ d ev u, d.Disguises s.backend s.maskKey false ∧ ev.info? = some s.tag ∧
          u.Disguises s.backend s.maskKey true ∧
            (s.maskDown.emitModifier m false).maskUp.sent = s.sent ++ [d, ev, u]) ∧
      (e.maskKey.1.Other → q.Strikes P (SparesKey P e.maskKey.1) →
        ∀ ev ∈ r.sent, ev.Reserves e.maskKey.1) ∧
      ∀ ev ∈ r.sent, ∀ info, ev.info? = some info →
        ∀ (reg reg' : Registry) answers id hint ledger ledger' now a,
          reg.fireUnder answers id info hint ledger now = .ok (a, reg', ledger') →
            ∀ j i v, reg.variant? j i = some v → e.settings.sendLevel ≤ v.inputLevel →
              v.inputLevel.toNat ≤ Tag.maxLevel → reg.PassesOver j i a reg' := by
  have hsigned := (signs_runOf hr).signed
  refine ⟨handed_serve hr, hsigned, Tag.ofLevel_ne_ignore hlevel,
    fun s => ⟨s.exists_tap, s.exists_tapRound⟩, fun hother hq => reserves_runOf hother hq hr, ?_⟩
  intro ev hev info hinfo reg reg' answers id hint ledger ledger' now a hfire j i v hv hle hmax
  have htag : info = Tag.ofLevel e.settings.sendLevel ∨ info = Tag.ignore := by
    rcases hsigned.info? hev with htag | ⟨up, k, rfl, -, -, hk, -⟩
    · exact .inl (Option.some_inj.mp (hinfo.symm.trans htag))
    · rw [EventRecord.info?_carried] at hinfo
      exact .inr ((Option.some_inj.mp hinfo).symm.trans hk)
  exact (Registry.fired hfire).passesOver hv (Variant.allows_eq_false hle hmax htag)

/-- Alt is let go of after a tap of the mask key, seen by a trigger of the engine's level. -/
theorem sent_fires_nothing_of_alt :
    let d : Desktop := { Desktop.new with down := KeySet.assign ∅ .lalt true }
    let e : Engine Desktop := { Engine.new d { sendLevel := 2 } with maskKey := (0xE8, 0) }
    let q : Request := .send "{LAlt up}" .plain
    let reg := ((Registry.new 10 1).add ⟨"t", .hotstring, [{ inputLevel := 2 }]⟩).2
    ∃ r, e.runOf q = some r ∧
      r.sent.map (·.info?) = [some .ignore, some .ignore, some (.ofLevel 2)] ∧
      (∀ ev ∈ r.sent, ev.Reserves 0xE8) ∧
      ∀ ev ∈ r.sent, ∀ info, ev.info? = some info → ∀ reg' ledger' a,
        reg.fireUnder (fun _ _ => true) 0 info none .empty 0 = .ok (a, reg', ledger') →
          reg.PassesOver 0 0 a reg' := by
  intro d e q reg
  have hts : Token.ofText .notRaw "{LAlt up}" =
      [.key (.named (.key .lalt VirtualKey.lalt.scan)) .up] := by
    have hd : Token.directive? "LAlt up\x7d".toList = some ("LAlt up".toList, []) := by decide
    have ht : Directive.token true "LAlt up".toList =
        .key (.named (.key .lalt VirtualKey.lalt.scan)) .up := by decide
    refine (Token.ofChars_directive (by decide) hd).trans ?_
    rw [ht, Token.ofChars]
  let r := e.sendRun [.key (.named (.key .lalt VirtualKey.lalt.scan)) .up] .plain
  have hr : e.runOf q = some r := by
    simp only [q, Engine.runOf, SendOptions.plain, hts]
    rfl
  have hlevel : e.settings.sendLevel.toNat ≤ Tag.maxLevel := by decide
  have hstrikes : q.Strikes Desktop (SparesKey Desktop e.maskKey.1) := by
    intro t ht
    obtain rfl := List.mem_singleton.mp (hts ▸ ht : t ∈ [_])
    intro p l p' l'
    have hvk : VirtualKey.lalt ≠ 0 := by decide
    rw [if_neg hvk, if_neg hvk]
    decide
  obtain ⟨-, -, -, -, hreserves, hpasses⟩ := sent_fires_nothing hlevel hr
  refine ⟨r, hr, by decide +kernel, hreserves ⟨by decide, by decide, by decide⟩ hstrikes, ?_⟩
  intro ev hev info hinfo reg' ledger' a hfire
  exact hpasses ev hev info hinfo reg reg' _ 0 none .empty ledger' 0 a hfire 0 0
    { inputLevel := 2, maxThreads := some 1 } rfl (by decide) (by decide)

end Engine

end KeySynth
