import StyleVars.Text.Basic

/-
  The helper stylesheet that comes with the library. It defines `json-encode`, the function that
  the synthetic rule calls on every variable.
-/

namespace StyleVars.Helper

/-- The lines of the helper stylesheet. -/
def lines : List String := [
  "// JSON encoding for Sass values.",
  "//",
  "// `json-encode($value)` returns a string holding the JSON text for $value:",
  "// unitless numbers, booleans and null map to their JSON literals, lists to",
  "// arrays, maps to objects, and everything else (strings, colors, numbers with",
  "// units) to JSON strings.",
  "",
  "@function json-escape-string($string) \x7b",
  "  $result: '';",
  "  $length: str-length($string);",
  "  $i: 1;",
  "",
  "  @while $i <= $length \x7b",
  "    $char: str-slice($string, $i, $i);",
  "",
  "    @if $char == '\"' \x7b",
  "      $result: $result + '\\\\\"';",
  "    \x7d @else if $char == '\\\\' \x7b",
  "      $result: $result + '\\\\\\\\';",
  "    \x7d @else if $char == \"\\a\" \x7b",
  "      $result: $result + '\\\\n';",
  "    \x7d @else \x7b",
  "      $result: $result + $char;",
  "    \x7d",
  "",
  "    $i: $i + 1;",
  "  \x7d",
  "",
  "  @return $result;",
  "\x7d",
  "",
  "@function json-encode-key($key) \x7b",
  "  @if type-of($key) == 'string' \x7b",
  "    @return '\"' + json-escape-string($key) + '\"';",
  "  \x7d",
  "",
  "  @return '\"' + json-escape-string(inspect($key)) + '\"';",
  "\x7d",
  "",
  "@function json-encode($value) \x7b",
  "  $type: type-of($value);",
  "",
  "  @if $type == 'null' \x7b",
  "    @return 'null';",
  "  \x7d",
  "",
  "  @if $type == 'bool' \x7b",
  "    @return if($value, 'true', 'false');",
  "  \x7d",
  "",
  "  @if $type == 'number' \x7b",
  "    @if unitless($value) \x7b",
  "      @return inspect($value);",
  "    \x7d",
  "",
  "    @return '\"' + inspect($value) + '\"';",
  "  \x7d",
  "",
  "  @if $type == 'list' or $type == 'arglist' \x7b",
  "    $items: '';",
  "    $first: true;",
  "",
  "    @each $item in $value \x7b",
  "      @if not $first \x7b",
  "        $items: $items + ',';",
  "      \x7d",
  "      $items: $items + json-encode($item);",
  "      $first: false;",
  "    \x7d",
  "",
  "    @return '[' + $items + ']';",
  "  \x7d",
  "",
  "  @if $type == 'map' \x7b",
  "    $fields: '';",
  "    $first: true;",
  "",
  "    @each $key, $item in $value \x7b",
  "      @if not $first \x7b",
  "        $fields: $fields + ',';",
  "      \x7d",
  "      $fields: $fields + json-encode-key($key) + ':' + json-encode($item);",
  "      $first: false;",
  "    \x7d",
  "",
  "    @return '\x7b' + $fields + '\x7d';",
  "  \x7d",
  "",
  "  @if $type == 'string' \x7b",
  "    @return '\"' + json-escape-string($value) + '\"';",
  "  \x7d",
  "",
  "  @return '\"' + json-escape-string(inspect($value)) + '\"';",
  "\x7d"]

/-- The text of the helper stylesheet; every line ends with a line feed. -/
def source : Text := lines.flatMap fun l => l.toList ++ ['\n']

/-- The import name under which the helper stylesheet is served by default. -/
def defaultImport : Text := "sass-json-export".toList

end StyleVars.Helper
