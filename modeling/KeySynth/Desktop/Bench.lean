import KeySynth.Desktop.Basic

/-!
A desktop with some of its answers set by hand: how much of a batch it takes, which layout has
the focus, which layouts have AltGr and how characters are typed.
-/

namespace KeySynth

structure Bench where
  desktop : Desktop
  /-- The most events of an injected batch that get through. -/
  limit : Option Nat
  layout : Option LayoutId
  altgrLayouts : List LayoutId
  /-- Ways to type characters, ahead of those of the desktop. -/
  chords : List (Char × Chord)

namespace Bench

def new : Bench := ⟨.new, none, none, [], []⟩

variable (b : Bench)

/-- The part of a batch that gets through. -/
def accepted (es : Array EventRecord) : Array EventRecord :=
  match b.limit with
  | some n => es.take n
  | none => es

def inject (es : Array EventRecord) : Except Fault Nat × Bench :=
  let es := b.accepted es
  let (res, d) := b.desktop.inject es
  (res, { b with desktop := d })

def play (es : Array EventRecord) : Except Fault Unit × Bench :=
  let (res, d) := b.desktop.play es
  (res, { b with desktop := d })

instance : Platform Bench where
  isDown b := Platform.isDown b.desktop
  isToggled b := Platform.isToggled b.desktop
  hasHook b := b.desktop.hook
  physical b := b.desktop.physical
  foreignHooks b := b.desktop.foreignHooks
  scanOf b := Platform.scanOf b.desktop
  keyAt b := Platform.keyAt b.desktop
  focusedLayout b w := b.layout.getD (Platform.focusedLayout b.desktop w)
  hasAltGr b layout := b.altgrLayouts.contains layout || Platform.hasAltGr b.desktop layout
  chord? b c layout := (b.chords.lookup c).or (Platform.chord? b.desktop c layout)
  buttonsSwapped b := b.desktop.buttonsSwapped
  cursor b := b.desktop.cursor
  origin b := Platform.origin b.desktop
  isOwnWindow b := Platform.isOwnWindow b.desktop
  now b := b.desktop.clock
  inject := inject
  play := play
  sleep b ms := { b with desktop := b.desktop.sleep ms }
  wait b ms := { b with desktop := b.desktop.wait ms }

end Bench

end KeySynth
