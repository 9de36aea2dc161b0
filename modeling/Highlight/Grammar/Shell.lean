import Highlight.Grammar.Lexeme

/-!
# Shell

A command stands at the start of a line or after a separator; the command that a wrapper such as
`sudo` runs is told from the wrapper. Strings come before comments, so a quoted `#` stays in its
string.
-/

namespace Highlight.Grammar

open Pattern Lexeme

/-- Where a command may start. -/
def commandPosition : List Pattern :=
  [alts [lineStart, char ';', text "&&", text "||", char '|'], spacing]

/-- The characters that the name of a variable or command may start with. -/
def commandStart : CharSet := .unions [.range 'a' 'z', .range 'A' 'Z', .char '_']

/-- The ASCII letters, digits and the underscore. -/
def commandChar : List CharSet := [.range 'a' 'z', .range 'A' 'Z', .range '0' '9', .char '_']

/-- The name of a command, of two characters at least. -/
def commandName : Pattern :=
  seq (set commandStart) (oneOrMore (set (.unions (commandChar ++ [.char '-']))))

/-- Shell. -/
def shell : Grammar where
  name := "shell"
  label := "Shell"
  aliases := ["bash", "sh", "zsh", "console"]
  rules := [
    .whole "shebang" .preprocessor (seqs [lineStart, char '#', char '!', zeroOrMore dot, lineEnd]),
    .whole "string" .string openString,
    .whole "comment" .comment hashComment,
    .whole "keyword" .keyword (words [
      "if", "then", "else", "elif", "fi", "for", "while", "until", "do", "done", "case", "esac",
      "in", "function", "select"]),
    .part "wrapped_command" .function
      (seqs (commandPosition ++
        [alts (["sudo", "env", "time", "nice", "nohup", "watch", "xargs", "exec",
            "command"].map text),
          oneOrMore (oneOf " \t"), group 1 commandName])),
    .part "command" .builtin (seqs (commandPosition ++ [group 1 commandName])),
    .whole "test_bracket" .builtin (between 1 2 (oneOf "[]")),
    .whole "variable" .variable
      (alts [seqs [char '$', set commandStart, zeroOrMore (set (.unions commandChar))],
        seqs [char '$', char '\x7b', oneOrMore (noneOf "\x7d\n"), char '\x7d'],
        seq (char '$') (set (.union (.range '0' '9') (.oneOf "#?@*!$-")))]),
    .part "flag" .flag
      (seq blank (group 1 (alt
        (seqs [char '-', char '-',
          oneOrMore (set (.unions [.range 'a' 'z', .range 'A' 'Z', .range '0' '9', .char '-']))])
        (seq (char '-') (oneOrMore (set (.union (.range 'a' 'z') (.range 'A' 'Z')))))))),
    .whole "operator" .operator
      (alts (["||", "&&", "2>>", ">>", "&>", "2>", ";", "|", ">", "<"].map text)),
    .whole "subshell" .operator (alts (["$(", "(", ")", "\x60"].map text)),
    .whole "number" .number (seqs [wordEdge, oneOrMore digit, wordEdge])]

end Highlight.Grammar
