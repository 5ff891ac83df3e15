import Moderation.Category

/-!
The files that a new server starts with: examples of rules for each category, and the handlers that they
refer to.
-/
namespace Moderation.Defaults

def generalLines : List String := [
  "# -----------------------------------------------------------------------------",
  "# Global rules, checked against every chat message, command and sign.",
  "#",
  "# A rule starts with 'match <regex>' and ends where the next one starts.",
  "# Matching is case-insensitive and ignores color codes.",
  "#",
  "# Operators:",
  "#   id <name>                          - name used in \x7bruleID\x7d and log lines",
  "#   ignore string <regex>              - erase this text before matching",
  "#   ignore event <chat|command|sign>   - skip the rule for this event",
  "#   ignore perm <permission>           - skip the rule for players with permission",
  "#   ignore gamemode <mode>|<mode>      - skip the rule in these game modes",
  "#   before strip <regex>               - remove text before matching",
  "#   before replace <regex> with <text> - replace text before matching",
  "#   then deny                          - cancel the message",
  "#   then log                           - write the violation to logs/rules.txt",
  "#   then replace <a>|<b>               - replace the matched part with a random choice",
  "#   then rewrite <a>|<b>               - replace the whole message with a random choice",
  "#   then console <cmd>|<cmd>           - run console commands",
  "#   then warn <message>                - warn the player",
  "#   then notify <permission> <message> - tell players holding the permission",
  "#   then fine <amount>                 - take money from the player",
  "#   then kick [message]                - kick the player",
  "#   handle as <handler>                - apply a handler from handlers.yml",
  "#",
  "# Variables: \x7bplayer\x7d \x7bworld\x7d \x7bmessage\x7d \x7bruleID\x7d",
  "# -----------------------------------------------------------------------------",
  "",
  "# Swearing.",
  "match \\b(f+(\\W|\\d|_)*u+(\\W|\\d|_)*c+(\\W|\\d|_)*k+|s+(\\W|\\d|_)*h+(\\W|\\d|_)*i+(\\W|\\d|_)*t+)",
  "id swear",
  "ignore string \\bshitake\\b",
  "handle as swear",
  "",
  "# Advertising of IP addresses.",
  "match [0-9]\x7b1,3\x7d(\\.|dot|\\(dot\\)|-|;|:|,|(\\W|\\d|_)*\\s)+(\\W|\\d|_)*[0-9]\x7b1,3\x7d(\\.|dot|\\(dot\\)|-|;|:|,|(\\W|\\d|_)*\\s)+(\\W|\\d|_)*[0-9]\x7b1,3\x7d(\\.|dot|\\(dot\\)|-|;|:|,|(\\W|\\d|_)*\\s)+(\\W|\\d|_)*[0-9]\x7b1,3\x7d",
  "id ip-ads",
  "ignore perm chatward.bypass.ads",
  "handle as advertisement",
  "",
  "# Advertising of domains.",
  "match [a-zA-Z0-9\\-\\.]+\\s?(\\.|dot|\\(dot\\)|-|;|:|,)\\s?(com|org|net|cz|co|uk|sk|biz|mobi|xxx|eu|io)\\b",
  "id domain-ads",
  "ignore string \\b(example\\.com|youtube\\.com|imgur\\.com)\\b",
  "ignore perm chatward.bypass.ads",
  "handle as advertisement",
  "",
  "# Lag complaints.",
  "match \\blag(gy|ging)?\\b",
  "id lag",
  "ignore event command",
  "then warn &7Noticed lag? Please tell a staff member instead.",
  "",
  "# Stop people from asking for operator.",
  "match \\b(can i (have|get) op|give me op|op me)\\b",
  "id op-request",
  "then deny",
  "then warn &cPlease do not ask for operator status.",
  ""]

def chatLines : List String := [
  "# -----------------------------------------------------------------------------",
  "# Rules checked only against chat messages, after the rules in rules.txt.",
  "# Uses the same operators as rules.txt.",
  "# -----------------------------------------------------------------------------",
  "",
  "# Friendlier greetings.",
  "match ^(hi|hello|hey)$",
  "id greeting",
  "then rewrite Hello everyone!|Hi all!|Hey there!",
  "",
  "# Repeated punctuation.",
  "match [!?]\x7b4,\x7d",
  "id punctuation",
  "then replace !",
  ""]

def commandLines : List String := [
  "# -----------------------------------------------------------------------------",
  "# Rules checked only against commands, after the rules in rules.txt.",
  "# The checked text includes the leading slash.",
  "# -----------------------------------------------------------------------------",
  "",
  "# Block plugin listing for regular players.",
  "match ^/(pl|plugins|bukkit:pl|bukkit:plugins)\\b",
  "id plugins",
  "ignore perm chatward.bypass.plugins",
  "then deny",
  "then warn &cPlugins are a secret.",
  "",
  "# Log use of /me.",
  "match ^/(me|emote)\\b",
  "id me",
  "then log",
  ""]

def signLines : List String := [
  "# -----------------------------------------------------------------------------",
  "# Rules checked only against sign text, after the rules in rules.txt.",
  "# All sign lines are joined with spaces before checking.",
  "# -----------------------------------------------------------------------------",
  "",
  "# Block shop spam on signs in the spawn world.",
  "match \\b(buy|sell)\\b.*\\$[0-9]+",
  "id sign-shop",
  "ignore gamemode creative",
  "then deny",
  "then warn &cShop signs are not allowed here.",
  ""]

def packetLines : List String := [
  "# -----------------------------------------------------------------------------",
  "# Rules applied to outgoing chat packets sent from the server to players.",
  "# Use them to hide or change messages sent by other plugins.",
  "#",
  "# Text is matched lowercased and without color codes.",
  "#",
  "# Operators:",
  "#   then deny                         - hide the whole message",
  "#   then replace <text>               - replace the matched part",
  "#   then rewrite <text>               - replace the whole text",
  "#   then rewritein <world> <text>     - replace the whole text in one world,",
  "#                                       'none' or 'hidden' hides the message",
  "#   dont verbose                      - do not log matches of this rule",
  "# -----------------------------------------------------------------------------",
  "",
  "# Change a protection plugin's item drop message.",
  "match hey! sorry, but you can't drop items here\\.",
  "then rewrite &cYou cannot drop items in this area.",
  "then rewritein hardcore hidden",
  "",
  "# Hide the vanilla unknown command message.",
  "match ^unknown command\\. type \"/help\" for help\\.$",
  "then rewrite &cUnknown command.",
  "dont verbose",
  ""]

def handlerLines : List String := [
  "# -----------------------------------------------------------------------------",
  "# Handlers are reusable actions applied with 'handle as <name>' in rule files.",
  "#",
  "# Set a value to 'none' or leave it empty to disable it.",
  "# Block_Message, Replace_Word and Replace_Whole cannot be combined.",
  "#",
  "# Variables: \x7bplayer\x7d \x7bworld\x7d \x7bmessage\x7d \x7bruleID\x7d \x7bhandler\x7d",
  "# -----------------------------------------------------------------------------",
  "",
  "swear:",
  "  Bypass_With_Permission: chatward.bypass.swear",
  "  Player_Warn_Message: \"&cPlease do not swear, \x7bplayer\x7d.\"",
  "  Broadcast_Message: none",
  "  Staff_Alert_Message: \"&7\x7bplayer\x7d swore: &f\x7bmessage\x7d\"",
  "  Staff_Alert_Permission: chatward.notify.swear",
  "  Console_Message: \"\x7bplayer\x7d swore: \x7bmessage\x7d\"",
  "  Write_To_File: logs/swears.txt",
  "  Block_Message: false",
  "  Replace_Word: \"&c*****\"",
  "  Replace_Whole: none",
  "  Execute_Commands: []",
  "  Ignored_In_Commands:",
  "    - /register",
  "    - /login",
  "",
  "advertisement:",
  "  Bypass_With_Permission: none",
  "  Player_Warn_Message: \"&cPlease do not advertise other servers.\"",
  "  Broadcast_Message: none",
  "  Staff_Alert_Message: \"&7\x7bplayer\x7d may have advertised: &f\x7bmessage\x7d\"",
  "  Staff_Alert_Permission: chatward.notify.ad",
  "  Console_Message: \"\x7bplayer\x7d may have advertised: \x7bmessage\x7d\"",
  "  Write_To_File: logs/advertisements.txt",
  "  Block_Message: true",
  "  Replace_Word: none",
  "  Replace_Whole: none",
  "  Execute_Commands: []",
  "  Ignored_In_Commands:",
  "    - /register",
  "    - /login",
  ""]

/-- The rules of a category that a new server starts with. -/
def rules (c : Category) : String :=
  "\n".intercalate <| match c with
    | .general => generalLines
    | .chat => chatLines
    | .command => commandLines
    | .sign => signLines
    | .packet => packetLines

/-- The definitions of handlers that a new server starts with. -/
def handlers : String := "\n".intercalate handlerLines

end Moderation.Defaults
