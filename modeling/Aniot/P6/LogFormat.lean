import Aniot.C.Text
import Aniot.P6.ReadLoop

/-! The lines of the log.

`ESP_LOGI` and `ESP_LOGE` hand `redirect_log` one line each: a colour, the level, a time
stamp, the tag, the text and a newline. What is used of them is that a message is a line
that fits the buffer of `READ_LOG` (`IsLine`), which a `LogFormat` carries with it. A file
made of such lines is read back line by line (`lines_flatten`), and the loop of
`READ_LOG` prints the first five (`readLogs_lines`). `espLogFormat` is the format as
configured. -/
namespace Aniot.P6
open C

/-- One newline, at the end, no NUL, and room for the NUL that `fgets` adds. -/
structure IsLine (l : List UInt8) : Prop where
  ends : ∃ body, l = body ++ [newline] ∧ newline ∉ body ∧ 0 ∉ body
  fits : l.length < bufferLength

/-- What `ESP_LOGI(TAG, "%d", value)` and the `ESP_LOGE` of `send_machine_state` format to
at a time stamp. -/
structure LogFormat where
  info : UInt32 → Int → List UInt8
  error : UInt32 → List UInt8
  info_line : ∀ stamp value, IsLine (info stamp value)
  error_line : ∀ stamp, IsLine (error stamp)

/-! ### A file of lines -/

theorem IsLine.no_nul {l : List UInt8} (h : IsLine l) : 0 ∉ l := by
  obtain ⟨body, rfl, -, hnul⟩ := h.ends
  rw [List.mem_append, not_or]
  exact ⟨hnul, by decide⟩

theorem lines_cons {body rest : List UInt8} (h : newline ∉ body) :
    lines (body ++ newline :: rest) = (body ++ [newline]) :: lines rest := by
  induction body with
  | nil => rw [List.nil_append, lines, if_pos rfl, List.nil_append]
  | cons x body ih =>
    rw [List.mem_cons, not_or] at h
    rw [List.cons_append, lines, if_neg (Ne.symm h.1), ih h.2]
    rfl

/-- Lines written one behind the other are the lines of the file. -/
theorem lines_flatten {ls : List (List UInt8)} (h : ∀ l ∈ ls, IsLine l) : lines ls.flatten = ls := by
  induction ls with
  | nil => rfl
  | cons l ls ih =>
    obtain ⟨body, rfl, hbody, -⟩ := (h l List.mem_cons_self).ends
    rw [List.flatten_cons, List.append_assoc, List.singleton_append, lines_cons hbody,
      ih fun l hl => h l (List.mem_cons_of_mem _ hl)]

/-- The loop prints the first lines of such a file, whole. -/
theorem readLogs_lines {ls : List (List UInt8)} (h : ∀ l ∈ ls, IsLine l) :
    readLogs ls.flatten 0 = ls.take numLogsRead := by
  have hnul : 0 ∉ ls.flatten := by
    intro hmem
    obtain ⟨l, hl, hmem⟩ := List.mem_flatten.mp hmem
    exact (h l hl).no_nul hmem
  have hlines := lines_flatten h
  rw [readLogs_eq _ 0 hnul, Nat.sub_zero, chunks_eq_lines, hlines]
  rw [hlines]
  exact fun l hl => (h l hl).fits

/-! ### The format as configured -/

/-- `%d` of what an `int` holds. -/
def decimal (value : Int) : List UInt8 :=
  let i := value.bmod (2 ^ 32)
  (if i < 0 then cString "-" else []) ++ cString (toString i.natAbs)

/-- `LOG_FORMAT` with colours: level, time stamp, tag and text. -/
def logLine (colour level : String) (stamp : UInt32) (text : List UInt8) : List UInt8 :=
  cString "\x1b[0;" ++ cString colour ++ cString level ++ cString (toString stamp.toNat) ++
    cString ") P6: " ++ text ++ cString "\x1b[0m" ++ [newline]

/-- Bytes that are neither a newline nor a NUL. -/
def Plain (l : List UInt8) : Prop := (l.all fun b => b != newline && b != 0) = true

theorem plain_iff {l : List UInt8} : Plain l ↔ newline ∉ l ∧ 0 ∉ l := by
  simp only [Plain, List.all_eq_true, Bool.and_eq_true, bne_iff_ne]
  constructor
  · exact fun h => ⟨fun hmem => (h _ hmem).1 rfl, fun hmem => (h _ hmem).2 rfl⟩
  · rintro ⟨hnewline, hnul⟩ b hb
    exact ⟨fun he => hnewline (he ▸ hb), fun he => hnul (he ▸ hb)⟩

theorem Plain.append {l l' : List UInt8} (h : Plain l) (h' : Plain l') : Plain (l ++ l') := by
  rw [Plain, List.all_append, Bool.and_eq_true]
  exact ⟨h, h'⟩

theorem plain_decimal (i : Nat) : Plain (cString (toString i)) := by
  refine plain_iff.mpr ⟨fun hmem => ?_, decimal_no_nul i⟩
  obtain ⟨c, hc, hnewline⟩ := List.mem_map.mp hmem
  obtain ⟨hlow, hhigh⟩ := digit_of_mem hc
  have hbyte : c.toNat.toUInt8.toNat = c.toNat := toUInt8_toNat (by omega)
  rw [hnewline, newline] at hbyte
  have hten : (10 : UInt8).toNat = 10 := rfl
  omega

theorem plain_value (value : Int) : Plain (decimal value) := by
  unfold decimal
  dsimp only
  refine Plain.append ?_ (plain_decimal _)
  split <;> rfl

theorem decimal_length (value : Int) : (decimal value).length ≤ 11 := by
  have hlow : -(((2 ^ 32 : Nat) : Int) / 2) ≤ value.bmod (2 ^ 32) := Int.le_bmod (by decide)
  have hhigh : value.bmod (2 ^ 32) < (((2 ^ 32 : Nat) : Int) + 1) / 2 := Int.bmod_lt (by decide)
  have hbound : (value.bmod (2 ^ 32)).natAbs < 10 ^ 10 := by omega
  have hdigits := (decimal_length_le_iff (i := (value.bmod (2 ^ 32)).natAbs) (k := 10) (by decide)).mpr hbound
  have hsign : (if value.bmod (2 ^ 32) < 0 then cString "-" else []).length ≤ 1 := by
    split <;> decide
  simp only [decimal, List.length_append]
  omega

/-- A short text makes a line. -/
theorem logLine_isLine {colour level : String} {stamp : UInt32} {text : List UInt8}
    (hcolour : Plain (cString colour)) (hlevel : Plain (cString level)) (htext : Plain text)
    (hfits : colour.length + level.length + text.length < 200) :
    IsLine (logLine colour level stamp text) := by
  have hescape : Plain (cString "\x1b[0;") := rfl
  have htag : Plain (cString ") P6: ") := rfl
  have hreset : Plain (cString "\x1b[0m") := rfl
  have hbody : Plain (cString "\x1b[0;" ++ cString colour ++ cString level ++
      cString (toString stamp.toNat) ++ cString ") P6: " ++ text ++ cString "\x1b[0m") :=
    (((((hescape.append hcolour).append hlevel).append (plain_decimal _)).append htag).append
      htext).append hreset
  obtain ⟨hnewline, hnul⟩ := plain_iff.mp hbody
  refine ⟨⟨_, rfl, hnewline, hnul⟩, ?_⟩
  have hstamp : (cString (toString stamp.toNat)).length ≤ 10 :=
    (decimal_length_le_iff (by decide)).mpr (by have := stamp.toNat_lt; omega)
  simp only [logLine, List.length_append, cString_length] at hstamp ⊢
  have hfixed : "\x1b[0;".length + ") P6: ".length + "\x1b[0m".length = 14 := by decide
  rw [List.length_singleton, bufferLength]
  omega

/-- The format of `p6/sdkconfig`: colours, level information, time stamps of the RTOS. -/
def espLogFormat : LogFormat where
  info stamp value := logLine "32m" "I (" stamp (decimal value)
  error stamp := logLine "31m" "E (" stamp (cString "ERROR: Could not put item on delay queue.")
  info_line stamp value := by
    have hlength := decimal_length value
    have hlevel : "32m".length + "I (".length = 6 := by decide
    exact logLine_isLine rfl rfl (plain_value value) (by omega)
  error_line stamp := logLine_isLine rfl rfl rfl (by decide)

end Aniot.P6
