import EnvSeed.Proofs.Plan.Sources
import EnvSeed.Proofs.Text.Pieces

/-!
# Paths in the home directory

A path among the settings that begins with a tilde and a slash means the rest of it seen from the home directory, and
so it starts with the home directory unless the rest is absolute itself: then it stands for itself, and the home
directory has no part in it.
-/

namespace EnvSeed

namespace Path

/-- The path `rest` below a directory, with a slash between them unless the directory ends with one. -/
def below (home : ByteArray) (rest : String) : Path :=
  if endsWithSeparator ⟨home⟩ then ⟨home ++ rest.toUTF8⟩ else ⟨home ++ ⟨#[separator]⟩ ++ rest.toUTF8⟩

/-- The names on a path, without those that lead nowhere. -/
def components (path : Path) : List ByteArray :=
  path.names.filter fun name => !(name.isEmpty || name = selfName)

/-- The path is absolute, and goes first through the components of the directory. -/
def StartsWith (path home : Path) : Prop :=
  path.isAbsolute = true ∧ home.components <+: path.components

instance (path home : Path) : Decidable (path.StartsWith home) :=
  inferInstanceAs (Decidable (_ ∧ _))

variable {path front back : Path} {home : ByteArray} {rest : String}

/-- A slash divides a path into two, each with its own components. -/
theorem components_of_separator
    (h : path.bytes.data.toList = front.bytes.data.toList ++ separator :: back.bytes.data.toList) :
    path.components = front.components ++ back.components := by
  have hnames : path.names = front.names ++ back.names := by
    unfold names
    rw [h, Text.splitOn_append_mark, List.map_append]
  rw [components, hnames, List.filter_append]
  rfl

/-- A path is absolute exactly if a slash is its first byte. -/
theorem isAbsolute_iff : path.isAbsolute = true ↔ path.bytes.data.toList.head? = some separator := by
  rw [isAbsolute, beq_iff_eq, List.head?_eq_getElem?, Array.getElem?_toList]

/-- A path ends with a slash exactly if that is its last byte. -/
theorem endsWithSeparator_iff : path.endsWithSeparator = true ↔ path.bytes.data.toList.getLast? = some separator := by
  rw [endsWithSeparator, beq_iff_eq, Array.back?_eq_getElem?, List.getLast?_eq_getElem?, Array.getElem?_toList]
  rfl

/-- A path that a text spells is absolute exactly if the text begins with a slash. -/
theorem isAbsolute_ofString : (ofString rest).isAbsolute = true ↔ rest.toList.head? = some '/' := by
  obtain ⟨text, rfl⟩ : ∃ text, rest = String.ofList text := ⟨rest.toList, String.ofList_toList.symm⟩
  rw [isAbsolute_iff, ofString, Text.toList_toUTF8, String.toList_ofList]
  cases text with
  | nil => simp
  | cons c tail =>
    rw [List.flatMap_cons, List.head?_cons]
    constructor
    · intro hhead
      have hmem : separator ∈ String.utf8EncodeChar c := by
        cases hbytes : String.utf8EncodeChar c with
        | nil => simp at hbytes
        | cons byte more =>
          rw [hbytes, List.cons_append, List.head?_cons] at hhead
          exact Option.some.inj hhead ▸ List.mem_cons_self
      have hcode : c.toNat = '/'.toNat := Text.toNat_of_mem_utf8EncodeChar (by decide) hmem
      exact congrArg some (Char.toNat_inj.mp hcode)
    · intro hslash
      obtain rfl := Option.some.inj hslash
      rfl

/-- A slash at the end of a path adds no component to it. -/
theorem components_of_final_separator (h : path.bytes.data.toList = front.bytes.data.toList ++ [separator]) :
    path.components = front.components := by
  have hempty : components ⟨.empty⟩ = [] := by decide
  have hparts : path.components = front.components ++ components ⟨.empty⟩ := components_of_separator h
  rw [hparts, hempty, List.append_nil]

/-- An absolute directory is on the way to every path below it. -/
theorem startsWith_below (habsolute : isAbsolute ⟨home⟩ = true) (rest : String) :
    (below home rest).StartsWith ⟨home⟩ := by
  rw [isAbsolute_iff] at habsolute
  unfold below
  split
  · next hends =>
    obtain ⟨front, hfront⟩ := List.getLast?_eq_some_iff.mp (endsWithSeparator_iff.mp hends)
    have hhome : components ⟨home⟩ = components ⟨⟨front.toArray⟩⟩ := components_of_final_separator hfront
    have hbelow : components ⟨home ++ rest.toUTF8⟩ = components ⟨⟨front.toArray⟩⟩ ++ (ofString rest).components := by
      refine components_of_separator ?_
      rw [ByteArray.toList_data_append, hfront, List.append_assoc]
      rfl
    refine ⟨isAbsolute_iff.mpr ?_, hhome ▸ hbelow ▸ List.prefix_append _ _⟩
    rw [ByteArray.toList_data_append, List.head?_append, habsolute]
    rfl
  · have hbelow : components ⟨home ++ ⟨#[separator]⟩ ++ rest.toUTF8⟩ =
        components ⟨home⟩ ++ (ofString rest).components := by
      refine components_of_separator ?_
      rw [ByteArray.toList_data_append, ByteArray.toList_data_append, List.append_assoc]
      rfl
    refine ⟨isAbsolute_iff.mpr ?_, hbelow ▸ List.prefix_append _ _⟩
    rw [ByteArray.toList_data_append, ByteArray.toList_data_append, List.append_assoc, List.head?_append, habsolute]
    rfl

/-- An absolute path is not empty. -/
theorem size_pos_of_isAbsolute (habsolute : isAbsolute ⟨home⟩ = true) : 0 < home.size := by
  refine Nat.pos_of_ne_zero fun hsize => ?_
  rw [ByteArray.size_eq_zero_iff.mp hsize] at habsolute
  cases habsolute

/-- Absolute paths and the empty one exclude each other. -/
theorem isEmpty_of_isAbsolute (habsolute : isAbsolute ⟨home⟩ = true) : home.isEmpty = false := by
  simpa [ByteArray.isEmpty] using Nat.ne_zero_of_lt (size_pos_of_isAbsolute habsolute)

/-- Joining puts a path below an absolute directory unless the path is absolute itself, and then it stands for
itself. -/
theorem join_ofString (habsolute : isAbsolute ⟨home⟩ = true) (rest : String) :
    join ⟨home⟩ (ofString rest) = if rest.toList.head? = some '/' then ofString rest else below home rest := by
  have hhome := isEmpty_of_isAbsolute habsolute
  unfold join
  by_cases hslash : rest.toList.head? = some '/'
  · rw [if_pos (isAbsolute_ofString.mpr hslash), if_pos hslash]
  · rw [if_neg (mt isAbsolute_ofString.mp hslash), if_neg hslash, hhome, Bool.false_or]
    rfl

/-- A path below a directory is longer than what follows the directory. -/
theorem below_ne (habsolute : isAbsolute ⟨home⟩ = true) (rest : String) : below home rest ≠ ofString rest := by
  intro heq
  have hhome := size_pos_of_isAbsolute habsolute
  have hsize := congrArg (fun path => path.bytes.size) heq
  unfold below at hsize
  split at hsize <;> simp only [ofString, ByteArray.size_append] at hsize <;> omega

end Path

/-- An absolute path in the variable is the home directory, whatever the system has on record for the user. -/
theorem Environment.home?_of_isAbsolute {environment : Environment} {home : ByteArray}
    (hvalue : environment.value? "HOME" = some home) (habsolute : Path.isAbsolute ⟨home⟩ = true) :
    environment.home? = some home := by
  have hgiven : (some home).filter (!·.isEmpty) = some home :=
    Option.filter_some_eq_some.mpr (by rw [Path.isEmpty_of_isAbsolute habsolute]; rfl)
  rw [home?, hvalue, hgiven, Option.some_or]

/-- The paths among the settings. -/
def Settings.paths (settings : Settings) : List String :=
  [settings.keyFile, settings.template, settings.output]

/-- The paths among the overrides, in the same order. -/
def Overrides.paths (overrides : Overrides) : List (Option Path) :=
  [overrides.keyFile, overrides.template, overrides.output]

namespace Plan

/-- The paths of a plan, in the same order. -/
def paths (plan : Plan) : List Path :=
  [plan.keyFile, plan.template, plan.output]

variable {environment : Environment} {files : FileSystem} {named : Path} {overrides : Overrides} {plan : Plan}

/-- A path of a plan is the one among the overrides, or else the one that the settings mean. -/
theorem paths_of_fromFile (h : fromFile environment files (some named) overrides = .ok plan) :
    ∃ settings, readSettings files named = .ok settings ∧
      plan.paths = List.zipWith (fun given text => given.getD (homePath environment text)) overrides.paths
        settings.paths := by
  unfold fromFile at h
  cases hread : readSettings files named with
  | error failure =>
    simp only [hread] at h
    cases h
  | ok settings =>
    simp only [hread, resolve] at h
    split at h
    · cases h
    split at h
    · cases h
    · obtain rfl := Except.ok.inj h
      exact ⟨settings, rfl, rfl⟩

variable {home : ByteArray}

/-- A tilde and a slash in front of a text put it below the home directory, unless it begins with a slash itself. -/
theorem homePath_tilde (hhome : environment.home? = some home) (habsolute : Path.isAbsolute ⟨home⟩ = true)
    (rest : String) :
    homePath environment ("~/" ++ rest) =
      if rest.toList.head? = some '/' then .ofString rest else Path.below home rest := by
  have htext : ("~/" ++ rest).toList = '~' :: '/' :: rest.toList := by rw [String.toList_append]; rfl
  unfold homePath
  rw [htext, hhome, ← Path.join_ofString habsolute]
  exact congrArg (fun rest => Path.join ⟨home⟩ (.ofString rest)) String.ofList_toList

/-- A text that is no tilde alone and does not begin with a tilde and a slash is the path it spells. -/
theorem homePath_of_plain {text : String} (halone : text ≠ "~") (hstart : ∀ rest, text ≠ "~/" ++ rest) :
    homePath environment text = .ofString text := by
  unfold homePath
  split
  · next rest home htext _ =>
    refine absurd ?_ (hstart (String.ofList rest))
    exact String.toList_injective (by simp [htext])
  · next home htext _ => exact absurd (String.toList_injective htext) halone
  · rfl

/-- Take an absolute home directory. A tilde alone means that directory. A tilde and a slash in front of a text mean
the text below it, and so a path that starts with it, exactly if the text does not begin with a slash itself; if it
does, the path is the text, wherever that leads. Every other text is the path it spells. A plan takes the paths that
are not overridden from its settings in this way, so one that is set with a tilde and a slash starts with the home
directory unless a further slash follows and the rest leads elsewhere. -/
theorem homePath_of_home (hhome : environment.home? = some home) (habsolute : Path.isAbsolute ⟨home⟩ = true) :
    homePath environment "~" = ⟨home⟩ ∧
    (∀ rest, (homePath environment ("~/" ++ rest) = Path.below home rest ↔ rest.toList.head? ≠ some '/') ∧
      (Path.below home rest).StartsWith ⟨home⟩ ∧
      (rest.toList.head? = some '/' → homePath environment ("~/" ++ rest) = .ofString rest)) ∧
    (∀ text, text ≠ "~" → (∀ rest, text ≠ "~/" ++ rest) → homePath environment text = .ofString text) ∧
    ∀ (files : FileSystem) (named : Path) (overrides : Overrides) (plan : Plan),
      fromFile environment files (some named) overrides = .ok plan →
      ∃ settings, readSettings files named = .ok settings ∧
        ∀ (index : Nat) rest, settings.paths[index]? = some ("~/" ++ rest) → overrides.paths[index]? = some none →
          ∃ path, plan.paths[index]? = some path ∧
            (path.StartsWith ⟨home⟩ ↔ rest.toList.head? ≠ some '/' ∨ (Path.ofString rest).StartsWith ⟨home⟩) := by
  have hstarts (rest : String) := Path.startsWith_below habsolute rest
  refine ⟨?_, fun rest => ⟨?_, hstarts rest, fun hslash => ?_⟩, fun text => homePath_of_plain, ?_⟩
  · unfold homePath
    rw [hhome]
    rfl
  · rw [homePath_tilde hhome habsolute]
    split
    · next hslash => simpa [hslash] using (Path.below_ne habsolute rest).symm
    · next hslash => simpa using hslash
  · rw [homePath_tilde hhome habsolute, if_pos hslash]
  · intro files named overrides plan hplan
    obtain ⟨settings, hread, hpaths⟩ := paths_of_fromFile hplan
    refine ⟨settings, hread, fun index rest htext hgiven => ⟨homePath environment ("~/" ++ rest), ?_, ?_⟩⟩
    · rw [hpaths, List.getElem?_zipWith, htext, hgiven]
      rfl
    · rw [homePath_tilde hhome habsolute]
      split
      · next hslash => simp [hslash]
      · next hslash => simpa [hslash] using hstarts rest

/-- A home directory that ends with a slash, and a key file that the settings put beside it. -/
theorem homePath_of_home_final_slash :
    let environment := Environment.ofList [("HOME", "/home/tester/".toUTF8)]
    let home : Path := .ofString "/home/tester/"
    let files := FileSystem.fresh.store ["tmp".toUTF8, "work".toUTF8, "envboot.toml".toUTF8]
      (.file "[paths]\nkey_file = \x22~/../k\x22\n".toUTF8 0o644)
    environment.home? = some home.bytes ∧ home.isAbsolute = true ∧
      homePath environment "~/../k" = Path.below home.bytes "../k" ∧
      Path.below home.bytes "../k" = .ofString "/home/tester/../k" ∧
      ∃ plan, fromFile environment files (some defaultFile) {} = .ok plan ∧ plan.keyFile.StartsWith home := by
  intro environment home files
  have habsolute : home.isAbsolute = true := by decide +kernel
  have hvalue : environment.value? "HOME" = some home.bytes := by decide +kernel
  have hhome := Environment.home?_of_isAbsolute hvalue habsolute
  obtain ⟨-, hbelow, -, hsettings⟩ := homePath_of_home hhome habsolute
  have hplan : fromFile environment files (some defaultFile) {} = .ok { keyFile := .ofString "/home/tester/../k" } :=
    eq_ok_of_toOption (by decide +kernel)
  have hfile : readSettings files defaultFile = .ok { keyFile := "~/../k" } := eq_ok_of_toOption (by decide +kernel)
  obtain ⟨settings, hread, hpaths⟩ := hsettings files defaultFile {} _ hplan
  obtain rfl := Except.ok.inj (hread.symm.trans hfile)
  obtain ⟨path, hpath, hstarts⟩ := hpaths 0 "../k" (by decide +kernel) rfl
  obtain rfl := Option.some.inj hpath
  exact ⟨hhome, habsolute, (hbelow "../k").1.mpr (by decide +kernel), by decide +kernel, _, hplan,
    hstarts.mpr (.inl (by decide +kernel))⟩

/-- A second slash behind the tilde: the path that is meant has nothing to do with the home directory, also if it is
taken from the settings. -/
theorem homePath_of_slash :
    let environment := Environment.ofList [("HOME", "/home/tester".toUTF8)]
    let home : Path := .ofString "/home/tester"
    let files := FileSystem.fresh.store ["tmp".toUTF8, "work".toUTF8, "envboot.toml".toUTF8]
      (.file "[paths]\nkey_file = \x22~//etc/passwd\x22\n".toUTF8 0o644)
    environment.home? = some home.bytes ∧ home.isAbsolute = true ∧
      homePath environment "~//etc/passwd" ≠ Path.below home.bytes "/etc/passwd" ∧
      ¬(homePath environment "~//etc/passwd").StartsWith home ∧
      fromFile environment files (some defaultFile) {} = .ok { keyFile := .ofString "/etc/passwd" } := by
  intro environment home files
  exact ⟨by decide +kernel, by decide +kernel, by decide +kernel, by decide +kernel,
    eq_ok_of_toOption (by decide +kernel)⟩

end Plan

end EnvSeed
