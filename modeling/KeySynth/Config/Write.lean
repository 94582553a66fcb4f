import KeySynth.Config.Basic

/-!
Writing configurations, with a comment to each line. Texts are written as they are.
-/

namespace KeySynth.Config

/-- The lines of a file. -/
def lines (c : Config) : List String :=
  ["key_delay = " ++ toString c.keyDelay ++
     "                # Delay after each key in Event mode (ms, -1 = none)",
   "press_duration = " ++ toString c.pressDuration ++
     "          # Time a key is held down (ms, -1 = none)",
   "key_delay_play = " ++ toString c.keyDelayPlay ++
     "          # Key delay used in Play mode",
   "press_duration_play = " ++ toString c.pressDurationPlay ++
     "     # Press duration used in Play mode",
   "mouse_delay = " ++ toString c.mouseDelay ++
     "              # Delay after each mouse event (ms, -1 = none)",
   "mouse_delay_play = " ++ toString c.mouseDelayPlay ++
     "        # Mouse delay used in Play mode",
   "send_mode = \"" ++ c.sendMode ++ "\"          # Event, Input, Play or InputThenPlay",
   "send_level = " ++ toString c.sendLevel ++
     "                # 0-100, tags sent input for hotkey input levels",
   "default_mouse_speed = " ++ toString c.mouseSpeed ++
     "       # 0 (instant) to 100 (slowest)",
   "store_caps_lock_mode = " ++ toString c.storeCapsLock ++
     "   # Turn CapsLock off while sending",
   "coord_mode = \"" ++ c.coordMode ++ "\"        # Screen, Window or Client",
   "",
   "# Hotkeys",
   "hotkey_modifier_timeout = " ++ toString c.hotkeyTimeout ++
     "  # How long a hotkey's modifiers are assumed held without a hook (ms, -1 = forever)",
   "menu_mask_key = \"" ++ c.maskKey ++
     "\"      # Key tapped to keep Alt/Win releases from opening menus",
   "max_threads = " ++ toString c.maxThreads ++
     "              # Threads that may run at once",
   "max_threads_per_hotkey = " ++ toString c.maxThreadsPerHotkey ++
     "    # Threads one hotkey may run at once"]

/-- The text of a file. -/
def render (c : Config) : String := String.join (c.lines.map (· ++ "\n"))

end KeySynth.Config
