/-
This file holds the configuration file that the program writes for new users.
-/

import HouseStyle.Text.Basic

namespace HouseStyle.Config

/-- Every setting has its default value and a comment. -/
def template : Text :=
  r##"# style-guard configuration file

[scanner]
# Source folder checked when no root is given on the command line
root = "."
# Extensions of every checked file
extensions = ["cpp", "h"]
# Glob patterns skipped while walking
exclude = ["**/.git/**"]
# Respect .gitignore rules
gitignore = false

[symbols]
# Files that get ordering and documentation checks
extensions = ["cpp"]
# <prefix...> includes are framework includes, ordered after system includes
framework_prefixes = ["allegro"]

[ordering]
enabled = true
# Functions exempt from alphabetical ordering
exceptions = ["create_fsm"]
# Constructors and destructors go "first" or "last"
constructors = "last"

[documentation]
enabled = true
# First line of a documentation block starts with this
block_start = "/**"
# Tag preceding each documented parameter
param_tag = "@param"

[spacing]
enabled = true
# Blank lines required after close braces, include blocks and using blocks
min_blank_lines = 2

[line_length]
enabled = true
max = 80

[forbidden]
# Regular expressions that must not match any line
# patterns = ['\bcout\b', '<iostream>']
patterns = []

[report]
# Problems in paths containing any of these are not reported
exclude = ["imgui/", "shaders_source.cpp", "code_debug.cpp"]
# Report file overwritten on every check
output = "problems.txt"
"##.toList

end HouseStyle.Config
