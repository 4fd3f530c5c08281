import Rxtx.Library.Stems

namespace Rxtx.CommDriver

abbrev JavaString := List Char

def Ascii (s : JavaString) : Prop := ∀ c ∈ s, c.toNat < 128

def Letterless (s : JavaString) : Prop := ∀ c ∈ s, ¬ c.isAlpha

/-- The case mappings of the default locale. Text in ASCII they map letter by letter, and there
    they differ at the letters only. (Which letter `i` becomes is not the same everywhere.) -/
structure Locale where
  toUpperCase : JavaString → JavaString
  toLowerCase : JavaString → JavaString
  upper : Char → Char
  lower : Char → Char
  toUpperCase_ascii : ∀ s, Ascii s → toUpperCase s = s.map upper
  toLowerCase_ascii : ∀ s, Ascii s → toLowerCase s = s.map lower
  upper_eq_lower : ∀ c, c.toNat < 128 → (upper c = lower c ↔ ¬ c.isAlpha)

theorem toUpper_eq_toLower (c : Char) (ascii : c.toNat < 128) :
    c.toUpper = c.toLower ↔ ¬ c.isAlpha := by
  have all : ∀ n : Fin 128, (Char.ofNat n).toUpper = (Char.ofNat n).toLower ↔
      ¬ (Char.ofNat n).isAlpha := by decide
  have here := all ⟨c.toNat, ascii⟩
  rwa [Char.ofNat_toNat] at here

def Locale.root : Locale where
  toUpperCase := List.map Char.toUpper
  toLowerCase := List.map Char.toLower
  upper := Char.toUpper
  lower := Char.toLower
  toUpperCase_ascii _ _ := rfl
  toLowerCase_ascii _ _ := rfl
  upper_eq_lower := toUpper_eq_toLower

theorem Locale.cases_eq_iff (locale : Locale) {s : JavaString} (ascii : Ascii s) :
    locale.toUpperCase s = locale.toLowerCase s ↔ Letterless s := by
  rw [locale.toUpperCase_ascii s ascii, locale.toLowerCase_ascii s ascii, List.map_inj_left]
  apply forall₂_congr
  intro c member
  exact locale.upper_eq_lower c (ascii c member)

structure System where
  osName : JavaString
  deviceDirectory : JavaString
  locale : Locale

namespace System

variable (system : System)

def named (name : String) : Prop := system.osName = name.toList

def nameHolds (word : String) : Prop := word.toList <:+: system.locale.toLowerCase system.osName

instance (name : String) : Decidable (system.named name) := inferInstanceAs (Decidable (_ = _))

instance (word : String) : Decidable (system.nameHolds word) :=
  inferInstanceAs (Decidable (_ <:+: _))

def solaris : Prop := system.named "Solaris" ∨ system.named "SunOS"

instance : Decidable system.solaris := inferInstanceAs (Decidable (_ ∨ _))

end System

def prefixes (names : List String) : List JavaString := names.map String.toList

def serialPrefixes (system : System) : List JavaString :=
  if system.named "Linux" then prefixes ["ttyS", "ttySA", "ttyUSB"]
  else if system.named "Linux-all-ports" then
    prefixes ["comx", "holter", "modem", "rfcomm", "ttyircomm", "ttycosa0c", "ttycosa1c", "ttyC",
      "ttyCH", "ttyD", "ttyE", "ttyF", "ttyH", "ttyI", "ttyL", "ttyM", "ttyMX", "ttyP", "ttyR",
      "ttyS", "ttySI", "ttySR", "ttyT", "ttyUSB", "ttyV", "ttyW", "ttyX"]
  else if system.nameHolds "qnx" then prefixes ["ser"]
  else if system.named "Irix" then
    prefixes ["ttyc", "ttyd", "ttyf", "ttym", "ttyq", "tty4d", "tty4f", "midi", "us"]
  else if system.named "FreeBSD" then
    prefixes ["ttyd", "cuaa", "ttyA", "cuaA", "ttyD", "cuaD", "ttyE", "cuaE", "ttyF", "cuaF",
      "ttyR", "cuaR", "stl"]
  else if system.named "NetBSD" then prefixes ["tty0"]
  else if system.solaris then prefixes ["term/", "cua/"]
  else if system.named "HP-UX" then prefixes ["tty0p", "tty1p"]
  else if system.named "UnixWare" ∨ system.named "OpenUNIX" then
    prefixes ["tty00s", "tty01s", "tty02s", "tty03s"]
  else if system.named "OpenServer" then
    prefixes ["tty1A", "tty2A", "tty3A", "tty4A", "tty5A", "tty6A", "tty7A", "tty8A", "tty9A",
      "tty10A", "tty11A", "tty12A", "tty13A", "tty14A", "tty15A", "tty16A", "ttyu1A", "ttyu2A",
      "ttyu3A", "ttyu4A", "ttyu5A", "ttyu6A", "ttyu7A", "ttyu8A", "ttyu9A", "ttyu10A", "ttyu11A",
      "ttyu12A", "ttyu13A", "ttyu14A", "ttyu15A", "ttyu16A"]
  else if system.named "Compaq's Digital UNIX" ∨ system.named "OSF1" then prefixes ["tty0"]
  else if system.named "BeOS" then prefixes ["serial"]
  else if system.named "Mac OS X" then
    prefixes ["cu.KeyUSA28X191.", "tty.KeyUSA28X191.", "cu.KeyUSA28X181.", "tty.KeyUSA28X181.",
      "cu.KeyUSA19181.", "tty.KeyUSA19181."]
  else if system.nameHolds "windows" then prefixes ["COM"]
  else []

def parallelPrefixes (system : System) : List JavaString :=
  if system.named "Linux" then prefixes ["lp"]
  else if system.named "FreeBSD" then prefixes ["lpt"]
  else if system.nameHolds "windows" then prefixes ["LPT"]
  else []

def portSerial : Int := 1
def portParallel : Int := 2

def candidatePortPrefixes (system : System) (portType : Int) : List JavaString :=
  if portType = portSerial then serialPrefixes system
  else if portType = portParallel then parallelPrefixes system
  else []

abbrev Fits (pre name : JavaString) : Prop := Stems.Continues (fun c => ¬ c.isAlpha) pre name

abbrev Apart (table : List JavaString) : Prop := Stems.Apart (fun c => ¬ c.isAlpha) table

theorem prefixes_nodup {names : List String} (nodup : names.Nodup) : (prefixes names).Nodup :=
  nodup.map fun _ _ => String.toList_inj.mp

theorem apart_letters {names : List String}
    (ends : ∀ name ∈ names, name.toList.getLast?.any Char.isAlpha = true) (nodup : names.Nodup) :
    Apart (prefixes names) := by
  apply Stems.apart_of_ends _ (prefixes_nodup nodup)
  intro stem member
  obtain ⟨name, inside, rfl⟩ := List.mem_map.mp member
  obtain ⟨c, last, letter⟩ := (Option.any_eq_true ..).mp (ends name inside)
  exact ⟨c, last, not_not_intro letter⟩

theorem apart_names {names : List String}
    (separated : ∀ stem ∈ prefixes names, ∀ other ∈ prefixes names, Fits stem other →
      stem = other) (nodup : names.Nodup) : Apart (prefixes names) :=
  ⟨separated, prefixes_nodup nodup⟩

theorem serialPrefixes_apart (system : System) : Apart (serialPrefixes system) := by
  unfold serialPrefixes
  repeat' (apply iteInduction (motive := Apart) <;> intro _)
  all_goals
    first
    | exact Stems.apart_nil
    | exact Stems.apart_singleton _
    | exact apart_letters (by decide +kernel) (by decide +kernel)
    | exact apart_names (by decide +kernel) (by decide +kernel)

theorem parallelPrefixes_apart (system : System) : Apart (parallelPrefixes system) := by
  unfold parallelPrefixes
  split_ifs
  · exact Stems.apart_singleton _
  · exact Stems.apart_singleton _
  · exact Stems.apart_singleton _
  · exact Stems.apart_nil

theorem candidatePortPrefixes_apart (system : System) (portType : Int) :
    Apart (candidatePortPrefixes system portType) := by
  unfold candidatePortPrefixes
  split_ifs
  · exact serialPrefixes_apart system
  · exact parallelPrefixes_apart system
  · exact Stems.apart_nil

theorem length_candidatePortPrefixes (system : System) (portType : Int) :
    (candidatePortPrefixes system portType).length < 50 := by
  unfold candidatePortPrefixes serialPrefixes parallelPrefixes
  repeat' (apply iteInduction (motive := fun table => List.length table < 50) <;> intro _)
  all_goals decide

end Rxtx.CommDriver
