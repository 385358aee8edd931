import Mathlib.Data.List.Basic

/-!
The functions of Rust's `str` that the host reads texts with, over lists of characters.
-/

namespace Lamella

/-- `char::is_whitespace`, the Unicode property White_Space. -/
def isWhitespace (char : Char) : Bool :=
  let code := char.toNat
  9 ≤ code && code ≤ 13 || code = 0x20 || code = 0x85 || code = 0xA0 || code = 0x1680 ||
    0x2000 ≤ code && code ≤ 0x200A || code = 0x2028 || code = 0x2029 || code = 0x202F ||
    code = 0x205F || code = 0x3000

def trim (text : List Char) : List Char :=
  ((text.dropWhile isWhitespace).reverse.dropWhile isWhitespace).reverse

def trimmed (text : String) : String := String.ofList (trim text.toList)

def splitWhitespace (text : List Char) : List (List Char) :=
  (text.splitOnP isWhitespace).filter (· ≠ [])

def stripReturn (line : List Char) : List Char :=
  if line.getLast? = some '\r' then line.dropLast else line

/-- A line break, with a carriage return before it, ends a line; what follows the last one is a
line if it is not empty. -/
def lines (text : List Char) : List (List Char) :=
  let parts := text.splitOn '\n'
  parts.dropLast.map stripReturn ++ parts.getLast?.toList.filter (· ≠ [])

/-- `rsplit_once(':')`, the part before the last colon. -/
def beforeLastColon (text : List Char) : Option (List Char) :=
  if ':' ∈ text then some (text.reverse.dropWhile (· ≠ ':')).tail.reverse else none

theorem dropWhile_eq_self {keep : Char → Bool} {text : List Char}
    (starts : ∀ char ∈ text.head?, keep char = false) : text.dropWhile keep = text := by
  cases text with
  | nil => rfl
  | cons first rest => exact List.dropWhile_cons_of_neg (by simp [starts first rfl])

theorem trim_append_space {text : List Char} {space : Char} (blank : isWhitespace space = true)
    (starts : ∀ char ∈ text.head?, isWhitespace char = false)
    (ends : ∀ char ∈ text.getLast?, isWhitespace char = false) : trim (text ++ [space]) = text := by
  cases text with
  | nil => simp [trim, blank]
  | cons first rest =>
      have front : (first :: rest ++ [space]).dropWhile isWhitespace = first :: rest ++ [space] :=
        dropWhile_eq_self (by simpa using starts)
      have back : ((first :: rest).reverse).dropWhile isWhitespace = (first :: rest).reverse := by
        apply dropWhile_eq_self
        rwa [List.head?_reverse]
      rw [trim, front, List.reverse_append, List.reverse_singleton, List.singleton_append,
        List.dropWhile_cons_of_pos blank, back, List.reverse_reverse]

/-- A word of a text, as `split_whitespace` returns it. -/
def IsWord (word : List Char) : Prop := word ≠ [] ∧ ∀ char ∈ word, isWhitespace char = false

theorem IsWord.starts {word : List Char} (isWord : IsWord word) :
    ∀ char ∈ word.head?, isWhitespace char = false :=
  fun char member => isWord.2 char (List.mem_of_mem_head? member)

theorem IsWord.ends {word : List Char} (isWord : IsWord word) :
    ∀ char ∈ word.getLast?, isWhitespace char = false :=
  fun char member => isWord.2 char (List.mem_of_mem_getLast? member)

theorem IsWord.not_mem {word : List Char} (isWord : IsWord word) {char : Char}
    (space : isWhitespace char = true) : char ∉ word := by
  intro member
  rw [isWord.2 char member] at space
  contradiction

theorem splitWhitespace_word {word : List Char} (isWord : IsWord word) :
    splitWhitespace word = [word] := by
  rw [splitWhitespace, List.splitOnP_eq_singleton isWord.2]
  simp [isWord.1]

theorem splitWhitespace_cons {word rest : List Char} {space : Char} (isWord : IsWord word)
    (separates : isWhitespace space = true) :
    splitWhitespace (word ++ space :: rest) = word :: splitWhitespace rest := by
  rw [splitWhitespace, List.splitOnP_append_cons _ _ separates, List.splitOnP_eq_singleton isWord.2]
  simp [splitWhitespace, isWord.1]

theorem splitWhitespace_intercalate {words : List (List Char)}
    (areWords : ∀ word ∈ words, IsWord word) :
    splitWhitespace ([' '].intercalate words) = words := by
  induction words with
  | nil => decide
  | cons first rest ih =>
      cases rest with
      | nil => simpa using splitWhitespace_word (areWords first (by simp))
      | cons second rest =>
          have later := ih fun word member => areWords word (List.mem_cons_of_mem _ member)
          rw [List.intercalate_cons_cons, List.append_assoc, List.singleton_append,
            splitWhitespace_cons (areWords first (by simp)) (by decide), later]

theorem stripReturn_eq_self {line : List Char} (plain : '\r' ∉ line) : stripReturn line = line :=
  if_neg fun ends => plain (List.mem_of_getLast? ends)

/-- A line whose first and last characters `trim` keeps. -/
structure IsLine (line : List Char) : Prop where
  nonempty : line ≠ []
  starts : ∀ char ∈ line.head?, isWhitespace char = false
  ends : ∀ char ∈ line.getLast?, isWhitespace char = false
  single : '\n' ∉ line
  plain : '\r' ∉ line

theorem IsWord.isLine {word : List Char} (isWord : IsWord word) : IsLine word :=
  ⟨isWord.1, isWord.starts, isWord.ends, isWord.not_mem (by decide), isWord.not_mem (by decide)⟩

theorem IsLine.append {first second : List Char} (left : IsLine first) (right : IsLine second)
    {space : Char} (single : space ≠ '\n') (plain : space ≠ '\r') :
    IsLine (first ++ space :: second) where
  nonempty := by simp
  starts := by
    intro char member
    rw [List.head?_append_of_ne_nil _ left.nonempty] at member
    exact left.starts char member
  ends := by
    intro char member
    rw [List.getLast?_append_of_ne_nil _ (by simp), List.getLast?_cons_of_ne_nil right.nonempty]
      at member
    exact right.ends char member
  single := by simp [left.single, right.single, Ne.symm single]
  plain := by simp [left.plain, right.plain, Ne.symm plain]

theorem intercalate_starts {separator : Char} {texts : List (List Char)}
    (areLines : ∀ text ∈ texts, IsLine text) :
    ∀ char ∈ ([separator].intercalate texts).head?, isWhitespace char = false := by
  cases texts with
  | nil => simp
  | cons first rest =>
      have isLine := areLines first (by simp)
      cases rest with
      | nil => simpa using isLine.starts
      | cons second rest =>
          rw [List.intercalate_cons_cons, List.append_assoc,
            List.head?_append_of_ne_nil _ isLine.nonempty]
          exact isLine.starts

theorem intercalate_ends {separator : Char} {texts : List (List Char)}
    (areLines : ∀ text ∈ texts, IsLine text) :
    ∀ char ∈ ([separator].intercalate texts).getLast?, isWhitespace char = false := by
  induction texts with
  | nil => simp
  | cons first rest ih =>
      cases rest with
      | nil => simpa using (areLines first (by simp)).ends
      | cons second rest =>
          have later := ih fun text member => areLines text (List.mem_cons_of_mem _ member)
          have nonempty : [separator].intercalate (second :: rest) ≠ [] := by
            have inside := (areLines second (by simp)).nonempty
            cases rest <;> simp [List.intercalate_cons_cons, inside]
          rw [List.intercalate_cons_cons, List.getLast?_append_of_ne_nil _ nonempty]
          exact later

theorem trim_intercalate {separator space : Char} (blank : isWhitespace space = true)
    {texts : List (List Char)} (areLines : ∀ text ∈ texts, IsLine text) :
    trim ([separator].intercalate texts ++ [space]) = [separator].intercalate texts :=
  trim_append_space blank (intercalate_starts areLines) (intercalate_ends areLines)

theorem lines_intercalate {texts : List (List Char)} (areLines : ∀ line ∈ texts, IsLine line) :
    lines (['\n'].intercalate texts) = texts := by
  cases texts with
  | nil => decide
  | cons first rest =>
      have stripped : (first :: rest).dropLast.map stripReturn = (first :: rest).dropLast := by
        refine (List.map_congr_left fun line member => ?_).trans (List.map_id _)
        exact stripReturn_eq_self (areLines line (List.dropLast_subset _ member)).plain
      have last := (areLines _ (List.getLast_mem (List.cons_ne_nil first rest))).nonempty
      rw [lines, List.splitOn_intercalate _ (fun line member => (areLines line member).single)
          (by simp), stripped, List.getLast?_eq_some_getLast (List.cons_ne_nil first rest)]
      rw [Option.toList_some, List.filter_cons_of_pos (by simpa using last), List.filter_nil]
      exact List.dropLast_append_getLast _

theorem flatMap_terminated {texts : List (List Char)} (nonempty : texts ≠ []) (space : Char) :
    (texts.flatMap fun text => text ++ [space]) = [space].intercalate texts ++ [space] := by
  induction texts with
  | nil => contradiction
  | cons first rest ih =>
      cases rest with
      | nil => simp
      | cons second rest =>
          rw [List.flatMap_cons, ih (by simp), List.intercalate_cons_cons]
          simp

theorem trim_flatMap {space : Char} (blank : isWhitespace space = true)
    {texts : List (List Char)} (areLines : ∀ text ∈ texts, IsLine text) :
    trim (texts.flatMap fun text => text ++ [space]) = [space].intercalate texts := by
  cases texts with
  | nil => rfl
  | cons first rest => rw [flatMap_terminated (by simp), trim_intercalate blank areLines]

theorem beforeLastColon_append {host port : List Char} (plain : ':' ∉ port) :
    beforeLastColon (host ++ ':' :: port) = some host := by
  have differs : ∀ char ∈ port.reverse, decide (char ≠ ':') = true := by
    intro char member
    rw [decide_eq_true_iff]
    rintro rfl
    exact plain (List.mem_reverse.mp member)
  rw [beforeLastColon, if_pos (by simp)]
  simp only [List.reverse_append, List.reverse_cons, List.append_assoc, List.singleton_append]
  rw [List.dropWhile_append_of_pos differs]
  simp

end Lamella
