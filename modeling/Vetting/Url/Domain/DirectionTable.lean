import Vetting.Text.CharTable

/-!
# Directions of writing, as data

The classes of characters that are not simply written from left to right.
-/

namespace Vetting.Domain

open Vetting.Text

/-- Letters written from right to left. -/
def rightToLeft : CharTable := [
  ⟨0x590, 0x590⟩, ⟨0x5BE, 0x5BE⟩, ⟨0x5C0, 0x5C0⟩, ⟨0x5C3, 0x5C3⟩, ⟨0x5C6, 0x5C6⟩, ⟨0x5C8, 0x5FF⟩,
  ⟨0x7C0, 0x7EA⟩, ⟨0x7F4, 0x7F5⟩, ⟨0x7FA, 0x7FC⟩, ⟨0x7FE, 0x815⟩, ⟨0x81A, 0x81A⟩, ⟨0x824, 0x824⟩,
  ⟨0x828, 0x828⟩, ⟨0x82E, 0x858⟩, ⟨0x85C, 0x85F⟩, ⟨0x200F, 0x200F⟩, ⟨0xFB1D, 0xFB1D⟩,
  ⟨0xFB1F, 0xFB28⟩, ⟨0xFB2A, 0xFB4F⟩, ⟨0x10800, 0x1091E⟩, ⟨0x10920, 0x10A00⟩, ⟨0x10A04, 0x10A04⟩,
  ⟨0x10A07, 0x10A0B⟩, ⟨0x10A10, 0x10A37⟩, ⟨0x10A3B, 0x10A3E⟩, ⟨0x10A40, 0x10AE4⟩,
  ⟨0x10AE7, 0x10B38⟩, ⟨0x10B40, 0x10CFF⟩, ⟨0x10D40, 0x10E5F⟩, ⟨0x10E7F, 0x10EAA⟩,
  ⟨0x10EAD, 0x10EBF⟩, ⟨0x10F00, 0x10F2F⟩, ⟨0x10F70, 0x10F81⟩, ⟨0x10F86, 0x10FFF⟩,
  ⟨0x1E800, 0x1E8CF⟩, ⟨0x1E8D7, 0x1E943⟩, ⟨0x1E94B, 0x1EC6F⟩, ⟨0x1ECC0, 0x1ECFF⟩,
  ⟨0x1ED50, 0x1EDFF⟩, ⟨0x1EF00, 0x1EFFF⟩]

/-- Letters of Arabic and related scripts. -/
def arabicLetters : CharTable := [
  ⟨0x608, 0x608⟩, ⟨0x60B, 0x60B⟩, ⟨0x60D, 0x60D⟩, ⟨0x61B, 0x64A⟩, ⟨0x66D, 0x66F⟩, ⟨0x671, 0x6D5⟩,
  ⟨0x6E5, 0x6E6⟩, ⟨0x6EE, 0x6EF⟩, ⟨0x6FA, 0x710⟩, ⟨0x712, 0x72F⟩, ⟨0x74B, 0x7A5⟩, ⟨0x7B1, 0x7BF⟩,
  ⟨0x860, 0x88F⟩, ⟨0x892, 0x897⟩, ⟨0x8A0, 0x8C9⟩, ⟨0xFB50, 0xFD3D⟩, ⟨0xFD50, 0xFDCE⟩,
  ⟨0xFDF0, 0xFDFC⟩, ⟨0xFE70, 0xFEFE⟩, ⟨0x10D00, 0x10D23⟩, ⟨0x10D28, 0x10D2F⟩, ⟨0x10D3A, 0x10D3F⟩,
  ⟨0x10EC0, 0x10EFC⟩, ⟨0x10F30, 0x10F45⟩, ⟨0x10F51, 0x10F6F⟩, ⟨0x1EC70, 0x1ECBF⟩,
  ⟨0x1ED00, 0x1ED4F⟩, ⟨0x1EE00, 0x1EEEF⟩, ⟨0x1EEF2, 0x1EEFF⟩]

/-- Arabic digits. -/
def arabicNumbers : CharTable := [
  ⟨0x600, 0x605⟩, ⟨0x660, 0x669⟩, ⟨0x66B, 0x66C⟩, ⟨0x6DD, 0x6DD⟩, ⟨0x890, 0x891⟩, ⟨0x8E2, 0x8E2⟩,
  ⟨0x10D30, 0x10D39⟩, ⟨0x10E60, 0x10E7E⟩]

/-- European digits. -/
def europeanNumbers : CharTable := [
  ⟨0x30, 0x39⟩, ⟨0xB2, 0xB3⟩, ⟨0xB9, 0xB9⟩, ⟨0x6F0, 0x6F9⟩, ⟨0x2070, 0x2070⟩, ⟨0x2074, 0x2079⟩,
  ⟨0x2080, 0x2089⟩, ⟨0x2488, 0x249B⟩, ⟨0xFF10, 0xFF19⟩, ⟨0x102E1, 0x102FB⟩, ⟨0x1D7CE, 0x1D7FF⟩,
  ⟨0x1F100, 0x1F10A⟩, ⟨0x1FBF0, 0x1FBF9⟩]

/-- Signs within European numbers. -/
def europeanSeparators : CharTable := [
  ⟨0x2B, 0x2B⟩, ⟨0x2D, 0x2D⟩, ⟨0x207A, 0x207B⟩, ⟨0x208A, 0x208B⟩, ⟨0x2212, 0x2212⟩,
  ⟨0xFB29, 0xFB29⟩, ⟨0xFE62, 0xFE63⟩, ⟨0xFF0B, 0xFF0B⟩, ⟨0xFF0D, 0xFF0D⟩]

/-- Separators within numbers. -/
def commonSeparators : CharTable := [
  ⟨0x2C, 0x2C⟩, ⟨0x2E, 0x2F⟩, ⟨0x3A, 0x3A⟩, ⟨0xA0, 0xA0⟩, ⟨0x60C, 0x60C⟩, ⟨0x202F, 0x202F⟩,
  ⟨0x2044, 0x2044⟩, ⟨0xFE50, 0xFE50⟩, ⟨0xFE52, 0xFE52⟩, ⟨0xFE55, 0xFE55⟩, ⟨0xFF0C, 0xFF0C⟩,
  ⟨0xFF0E, 0xFF0F⟩, ⟨0xFF1A, 0xFF1A⟩]

/-- Signs at the end of European numbers. -/
def europeanTerminators : CharTable := [
  ⟨0x23, 0x25⟩, ⟨0xA2, 0xA5⟩, ⟨0xB0, 0xB1⟩, ⟨0x58F, 0x58F⟩, ⟨0x609, 0x60A⟩, ⟨0x66A, 0x66A⟩,
  ⟨0x9F2, 0x9F3⟩, ⟨0x9FB, 0x9FB⟩, ⟨0xAF1, 0xAF1⟩, ⟨0xBF9, 0xBF9⟩, ⟨0xE3F, 0xE3F⟩,
  ⟨0x17DB, 0x17DB⟩, ⟨0x2030, 0x2034⟩, ⟨0x20A0, 0x20CF⟩, ⟨0x212E, 0x212E⟩, ⟨0x2213, 0x2213⟩,
  ⟨0xA838, 0xA839⟩, ⟨0xFE5F, 0xFE5F⟩, ⟨0xFE69, 0xFE6A⟩, ⟨0xFF03, 0xFF05⟩, ⟨0xFFE0, 0xFFE1⟩,
  ⟨0xFFE5, 0xFFE6⟩, ⟨0x11FDD, 0x11FE0⟩, ⟨0x1E2FF, 0x1E2FF⟩]

/-- Other characters without a direction. -/
def otherNeutrals : CharTable := [
  ⟨0x21, 0x22⟩, ⟨0x26, 0x2A⟩, ⟨0x3B, 0x40⟩, ⟨0x5B, 0x60⟩, ⟨0x7B, 0x7E⟩, ⟨0xA1, 0xA1⟩,
  ⟨0xA6, 0xA9⟩, ⟨0xAB, 0xAC⟩, ⟨0xAE, 0xAF⟩, ⟨0xB4, 0xB4⟩, ⟨0xB6, 0xB8⟩, ⟨0xBB, 0xBF⟩,
  ⟨0xD7, 0xD7⟩, ⟨0xF7, 0xF7⟩, ⟨0x2B9, 0x2BA⟩, ⟨0x2C2, 0x2CF⟩, ⟨0x2D2, 0x2DF⟩, ⟨0x2E5, 0x2ED⟩,
  ⟨0x2EF, 0x2FF⟩, ⟨0x374, 0x375⟩, ⟨0x37E, 0x37E⟩, ⟨0x384, 0x385⟩, ⟨0x387, 0x387⟩, ⟨0x3F6, 0x3F6⟩,
  ⟨0x58A, 0x58A⟩, ⟨0x58D, 0x58E⟩, ⟨0x606, 0x607⟩, ⟨0x60E, 0x60F⟩, ⟨0x6DE, 0x6DE⟩, ⟨0x6E9, 0x6E9⟩,
  ⟨0x7F6, 0x7F9⟩, ⟨0xBF3, 0xBF8⟩, ⟨0xBFA, 0xBFA⟩, ⟨0xC78, 0xC7E⟩, ⟨0xF3A, 0xF3D⟩,
  ⟨0x1390, 0x1399⟩, ⟨0x1400, 0x1400⟩, ⟨0x169B, 0x169C⟩, ⟨0x17F0, 0x17F9⟩, ⟨0x1800, 0x180A⟩,
  ⟨0x1940, 0x1940⟩, ⟨0x1944, 0x1945⟩, ⟨0x19DE, 0x19FF⟩, ⟨0x1FBD, 0x1FBD⟩, ⟨0x1FBF, 0x1FC1⟩,
  ⟨0x1FCD, 0x1FCF⟩, ⟨0x1FDD, 0x1FDF⟩, ⟨0x1FED, 0x1FEF⟩, ⟨0x1FFD, 0x1FFE⟩, ⟨0x2010, 0x2027⟩,
  ⟨0x2035, 0x2043⟩, ⟨0x2045, 0x205E⟩, ⟨0x207C, 0x207E⟩, ⟨0x208C, 0x208E⟩, ⟨0x2100, 0x2101⟩,
  ⟨0x2103, 0x2106⟩, ⟨0x2108, 0x2109⟩, ⟨0x2114, 0x2114⟩, ⟨0x2116, 0x2118⟩, ⟨0x211E, 0x2123⟩,
  ⟨0x2125, 0x2125⟩, ⟨0x2127, 0x2127⟩, ⟨0x2129, 0x2129⟩, ⟨0x213A, 0x213B⟩, ⟨0x2140, 0x2144⟩,
  ⟨0x214A, 0x214D⟩, ⟨0x2150, 0x215F⟩, ⟨0x2189, 0x218B⟩, ⟨0x2190, 0x2211⟩, ⟨0x2214, 0x2335⟩,
  ⟨0x237B, 0x2394⟩, ⟨0x2396, 0x2426⟩, ⟨0x2440, 0x244A⟩, ⟨0x2460, 0x2487⟩, ⟨0x24EA, 0x26AB⟩,
  ⟨0x26AD, 0x27FF⟩, ⟨0x2900, 0x2B73⟩, ⟨0x2B76, 0x2B95⟩, ⟨0x2B97, 0x2BFF⟩, ⟨0x2CE5, 0x2CEA⟩,
  ⟨0x2CF9, 0x2CFF⟩, ⟨0x2E00, 0x2E5D⟩, ⟨0x2E80, 0x2E99⟩, ⟨0x2E9B, 0x2EF3⟩, ⟨0x2F00, 0x2FD5⟩,
  ⟨0x2FF0, 0x2FFB⟩, ⟨0x3001, 0x3004⟩, ⟨0x3008, 0x3020⟩, ⟨0x3030, 0x3030⟩, ⟨0x3036, 0x3037⟩,
  ⟨0x303D, 0x303F⟩, ⟨0x309B, 0x309C⟩, ⟨0x30A0, 0x30A0⟩, ⟨0x30FB, 0x30FB⟩, ⟨0x31C0, 0x31E3⟩,
  ⟨0x321D, 0x321E⟩, ⟨0x3250, 0x325F⟩, ⟨0x327C, 0x327E⟩, ⟨0x32B1, 0x32BF⟩, ⟨0x32CC, 0x32CF⟩,
  ⟨0x3377, 0x337A⟩, ⟨0x33DE, 0x33DF⟩, ⟨0x33FF, 0x33FF⟩, ⟨0x4DC0, 0x4DFF⟩, ⟨0xA490, 0xA4C6⟩,
  ⟨0xA60D, 0xA60F⟩, ⟨0xA673, 0xA673⟩, ⟨0xA67E, 0xA67F⟩, ⟨0xA700, 0xA721⟩, ⟨0xA788, 0xA788⟩,
  ⟨0xA828, 0xA82B⟩, ⟨0xA874, 0xA877⟩, ⟨0xAB6A, 0xAB6B⟩, ⟨0xFD3E, 0xFD4F⟩, ⟨0xFDCF, 0xFDCF⟩,
  ⟨0xFDFD, 0xFDFF⟩, ⟨0xFE10, 0xFE19⟩, ⟨0xFE30, 0xFE4F⟩, ⟨0xFE51, 0xFE51⟩, ⟨0xFE54, 0xFE54⟩,
  ⟨0xFE56, 0xFE5E⟩, ⟨0xFE60, 0xFE61⟩, ⟨0xFE64, 0xFE66⟩, ⟨0xFE68, 0xFE68⟩, ⟨0xFE6B, 0xFE6B⟩,
  ⟨0xFF01, 0xFF02⟩, ⟨0xFF06, 0xFF0A⟩, ⟨0xFF1B, 0xFF20⟩, ⟨0xFF3B, 0xFF40⟩, ⟨0xFF5B, 0xFF65⟩,
  ⟨0xFFE2, 0xFFE4⟩, ⟨0xFFE8, 0xFFEE⟩, ⟨0xFFF9, 0xFFFD⟩, ⟨0x10101, 0x10101⟩, ⟨0x10140, 0x1018C⟩,
  ⟨0x10190, 0x1019C⟩, ⟨0x101A0, 0x101A0⟩, ⟨0x1091F, 0x1091F⟩, ⟨0x10B39, 0x10B3F⟩,
  ⟨0x11052, 0x11065⟩, ⟨0x11660, 0x1166C⟩, ⟨0x11FD5, 0x11FDC⟩, ⟨0x11FE1, 0x11FF1⟩,
  ⟨0x16FE2, 0x16FE2⟩, ⟨0x1D1E9, 0x1D1EA⟩, ⟨0x1D200, 0x1D241⟩, ⟨0x1D245, 0x1D245⟩,
  ⟨0x1D300, 0x1D356⟩, ⟨0x1D6DB, 0x1D6DB⟩, ⟨0x1D715, 0x1D715⟩, ⟨0x1D74F, 0x1D74F⟩,
  ⟨0x1D789, 0x1D789⟩, ⟨0x1D7C3, 0x1D7C3⟩, ⟨0x1EEF0, 0x1EEF1⟩, ⟨0x1F000, 0x1F02B⟩,
  ⟨0x1F030, 0x1F093⟩, ⟨0x1F0A0, 0x1F0AE⟩, ⟨0x1F0B1, 0x1F0BF⟩, ⟨0x1F0C1, 0x1F0CF⟩,
  ⟨0x1F0D1, 0x1F0F5⟩, ⟨0x1F10B, 0x1F10F⟩, ⟨0x1F12F, 0x1F12F⟩, ⟨0x1F16A, 0x1F16F⟩,
  ⟨0x1F1AD, 0x1F1AD⟩, ⟨0x1F260, 0x1F265⟩, ⟨0x1F300, 0x1F6D7⟩, ⟨0x1F6DC, 0x1F6EC⟩,
  ⟨0x1F6F0, 0x1F6FC⟩, ⟨0x1F700, 0x1F776⟩, ⟨0x1F77B, 0x1F7D9⟩, ⟨0x1F7E0, 0x1F7EB⟩,
  ⟨0x1F7F0, 0x1F7F0⟩, ⟨0x1F800, 0x1F80B⟩, ⟨0x1F810, 0x1F847⟩, ⟨0x1F850, 0x1F859⟩,
  ⟨0x1F860, 0x1F887⟩, ⟨0x1F890, 0x1F8AD⟩, ⟨0x1F8B0, 0x1F8B1⟩, ⟨0x1F900, 0x1FA53⟩,
  ⟨0x1FA60, 0x1FA6D⟩, ⟨0x1FA70, 0x1FA7C⟩, ⟨0x1FA80, 0x1FA88⟩, ⟨0x1FA90, 0x1FABD⟩,
  ⟨0x1FABF, 0x1FAC5⟩, ⟨0x1FACE, 0x1FADB⟩, ⟨0x1FAE0, 0x1FAE8⟩, ⟨0x1FAF0, 0x1FAF8⟩,
  ⟨0x1FB00, 0x1FB92⟩, ⟨0x1FB94, 0x1FBCA⟩]

/-- Characters that direction ignores. -/
def boundaryNeutrals : CharTable := [
  ⟨0x0, 0x8⟩, ⟨0xE, 0x1B⟩, ⟨0x7F, 0x84⟩, ⟨0x86, 0x9F⟩, ⟨0xAD, 0xAD⟩, ⟨0x180E, 0x180E⟩,
  ⟨0x200B, 0x200D⟩, ⟨0x2060, 0x2065⟩, ⟨0x206A, 0x206F⟩, ⟨0xFDD0, 0xFDEF⟩, ⟨0xFEFF, 0xFEFF⟩,
  ⟨0xFFF0, 0xFFF8⟩, ⟨0xFFFE, 0xFFFF⟩, ⟨0x1BCA0, 0x1BCA3⟩, ⟨0x1D173, 0x1D17A⟩, ⟨0x1FFFE, 0x1FFFF⟩,
  ⟨0x2FFFE, 0x2FFFF⟩, ⟨0x3FFFE, 0x3FFFF⟩, ⟨0x4FFFE, 0x4FFFF⟩, ⟨0x5FFFE, 0x5FFFF⟩,
  ⟨0x6FFFE, 0x6FFFF⟩, ⟨0x7FFFE, 0x7FFFF⟩, ⟨0x8FFFE, 0x8FFFF⟩, ⟨0x9FFFE, 0x9FFFF⟩,
  ⟨0xAFFFE, 0xAFFFF⟩, ⟨0xBFFFE, 0xBFFFF⟩, ⟨0xCFFFE, 0xCFFFF⟩, ⟨0xDFFFE, 0xE00FF⟩,
  ⟨0xE01F0, 0xE0FFF⟩, ⟨0xEFFFE, 0xEFFFF⟩, ⟨0xFFFFE, 0xFFFFF⟩, ⟨0x10FFFE, 0x10FFFF⟩]

/-- Marks that take the direction of what they attach to. -/
def nonspacingMarks : CharTable := [
  ⟨0x300, 0x36F⟩, ⟨0x483, 0x489⟩, ⟨0x591, 0x5BD⟩, ⟨0x5BF, 0x5BF⟩, ⟨0x5C1, 0x5C2⟩, ⟨0x5C4, 0x5C5⟩,
  ⟨0x5C7, 0x5C7⟩, ⟨0x610, 0x61A⟩, ⟨0x64B, 0x65F⟩, ⟨0x670, 0x670⟩, ⟨0x6D6, 0x6DC⟩, ⟨0x6DF, 0x6E4⟩,
  ⟨0x6E7, 0x6E8⟩, ⟨0x6EA, 0x6ED⟩, ⟨0x711, 0x711⟩, ⟨0x730, 0x74A⟩, ⟨0x7A6, 0x7B0⟩, ⟨0x7EB, 0x7F3⟩,
  ⟨0x7FD, 0x7FD⟩, ⟨0x816, 0x819⟩, ⟨0x81B, 0x823⟩, ⟨0x825, 0x827⟩, ⟨0x829, 0x82D⟩, ⟨0x859, 0x85B⟩,
  ⟨0x898, 0x89F⟩, ⟨0x8CA, 0x8E1⟩, ⟨0x8E3, 0x902⟩, ⟨0x93A, 0x93A⟩, ⟨0x93C, 0x93C⟩, ⟨0x941, 0x948⟩,
  ⟨0x94D, 0x94D⟩, ⟨0x951, 0x957⟩, ⟨0x962, 0x963⟩, ⟨0x981, 0x981⟩, ⟨0x9BC, 0x9BC⟩, ⟨0x9C1, 0x9C4⟩,
  ⟨0x9CD, 0x9CD⟩, ⟨0x9E2, 0x9E3⟩, ⟨0x9FE, 0x9FE⟩, ⟨0xA01, 0xA02⟩, ⟨0xA3C, 0xA3C⟩, ⟨0xA41, 0xA42⟩,
  ⟨0xA47, 0xA48⟩, ⟨0xA4B, 0xA4D⟩, ⟨0xA51, 0xA51⟩, ⟨0xA70, 0xA71⟩, ⟨0xA75, 0xA75⟩, ⟨0xA81, 0xA82⟩,
  ⟨0xABC, 0xABC⟩, ⟨0xAC1, 0xAC5⟩, ⟨0xAC7, 0xAC8⟩, ⟨0xACD, 0xACD⟩, ⟨0xAE2, 0xAE3⟩, ⟨0xAFA, 0xAFF⟩,
  ⟨0xB01, 0xB01⟩, ⟨0xB3C, 0xB3C⟩, ⟨0xB3F, 0xB3F⟩, ⟨0xB41, 0xB44⟩, ⟨0xB4D, 0xB4D⟩, ⟨0xB55, 0xB56⟩,
  ⟨0xB62, 0xB63⟩, ⟨0xB82, 0xB82⟩, ⟨0xBC0, 0xBC0⟩, ⟨0xBCD, 0xBCD⟩, ⟨0xC00, 0xC00⟩, ⟨0xC04, 0xC04⟩,
  ⟨0xC3C, 0xC3C⟩, ⟨0xC3E, 0xC40⟩, ⟨0xC46, 0xC48⟩, ⟨0xC4A, 0xC4D⟩, ⟨0xC55, 0xC56⟩, ⟨0xC62, 0xC63⟩,
  ⟨0xC81, 0xC81⟩, ⟨0xCBC, 0xCBC⟩, ⟨0xCCC, 0xCCD⟩, ⟨0xCE2, 0xCE3⟩, ⟨0xD00, 0xD01⟩, ⟨0xD3B, 0xD3C⟩,
  ⟨0xD41, 0xD44⟩, ⟨0xD4D, 0xD4D⟩, ⟨0xD62, 0xD63⟩, ⟨0xD81, 0xD81⟩, ⟨0xDCA, 0xDCA⟩, ⟨0xDD2, 0xDD4⟩,
  ⟨0xDD6, 0xDD6⟩, ⟨0xE31, 0xE31⟩, ⟨0xE34, 0xE3A⟩, ⟨0xE47, 0xE4E⟩, ⟨0xEB1, 0xEB1⟩, ⟨0xEB4, 0xEBC⟩,
  ⟨0xEC8, 0xECE⟩, ⟨0xF18, 0xF19⟩, ⟨0xF35, 0xF35⟩, ⟨0xF37, 0xF37⟩, ⟨0xF39, 0xF39⟩, ⟨0xF71, 0xF7E⟩,
  ⟨0xF80, 0xF84⟩, ⟨0xF86, 0xF87⟩, ⟨0xF8D, 0xF97⟩, ⟨0xF99, 0xFBC⟩, ⟨0xFC6, 0xFC6⟩,
  ⟨0x102D, 0x1030⟩, ⟨0x1032, 0x1037⟩, ⟨0x1039, 0x103A⟩, ⟨0x103D, 0x103E⟩, ⟨0x1058, 0x1059⟩,
  ⟨0x105E, 0x1060⟩, ⟨0x1071, 0x1074⟩, ⟨0x1082, 0x1082⟩, ⟨0x1085, 0x1086⟩, ⟨0x108D, 0x108D⟩,
  ⟨0x109D, 0x109D⟩, ⟨0x135D, 0x135F⟩, ⟨0x1712, 0x1714⟩, ⟨0x1732, 0x1733⟩, ⟨0x1752, 0x1753⟩,
  ⟨0x1772, 0x1773⟩, ⟨0x17B4, 0x17B5⟩, ⟨0x17B7, 0x17BD⟩, ⟨0x17C6, 0x17C6⟩, ⟨0x17C9, 0x17D3⟩,
  ⟨0x17DD, 0x17DD⟩, ⟨0x180B, 0x180D⟩, ⟨0x180F, 0x180F⟩, ⟨0x1885, 0x1886⟩, ⟨0x18A9, 0x18A9⟩,
  ⟨0x1920, 0x1922⟩, ⟨0x1927, 0x1928⟩, ⟨0x1932, 0x1932⟩, ⟨0x1939, 0x193B⟩, ⟨0x1A17, 0x1A18⟩,
  ⟨0x1A1B, 0x1A1B⟩, ⟨0x1A56, 0x1A56⟩, ⟨0x1A58, 0x1A5E⟩, ⟨0x1A60, 0x1A60⟩, ⟨0x1A62, 0x1A62⟩,
  ⟨0x1A65, 0x1A6C⟩, ⟨0x1A73, 0x1A7C⟩, ⟨0x1A7F, 0x1A7F⟩, ⟨0x1AB0, 0x1ACE⟩, ⟨0x1B00, 0x1B03⟩,
  ⟨0x1B34, 0x1B34⟩, ⟨0x1B36, 0x1B3A⟩, ⟨0x1B3C, 0x1B3C⟩, ⟨0x1B42, 0x1B42⟩, ⟨0x1B6B, 0x1B73⟩,
  ⟨0x1B80, 0x1B81⟩, ⟨0x1BA2, 0x1BA5⟩, ⟨0x1BA8, 0x1BA9⟩, ⟨0x1BAB, 0x1BAD⟩, ⟨0x1BE6, 0x1BE6⟩,
  ⟨0x1BE8, 0x1BE9⟩, ⟨0x1BED, 0x1BED⟩, ⟨0x1BEF, 0x1BF1⟩, ⟨0x1C2C, 0x1C33⟩, ⟨0x1C36, 0x1C37⟩,
  ⟨0x1CD0, 0x1CD2⟩, ⟨0x1CD4, 0x1CE0⟩, ⟨0x1CE2, 0x1CE8⟩, ⟨0x1CED, 0x1CED⟩, ⟨0x1CF4, 0x1CF4⟩,
  ⟨0x1CF8, 0x1CF9⟩, ⟨0x1DC0, 0x1DFF⟩, ⟨0x20D0, 0x20F0⟩, ⟨0x2CEF, 0x2CF1⟩, ⟨0x2D7F, 0x2D7F⟩,
  ⟨0x2DE0, 0x2DFF⟩, ⟨0x302A, 0x302D⟩, ⟨0x3099, 0x309A⟩, ⟨0xA66F, 0xA672⟩, ⟨0xA674, 0xA67D⟩,
  ⟨0xA69E, 0xA69F⟩, ⟨0xA6F0, 0xA6F1⟩, ⟨0xA802, 0xA802⟩, ⟨0xA806, 0xA806⟩, ⟨0xA80B, 0xA80B⟩,
  ⟨0xA825, 0xA826⟩, ⟨0xA82C, 0xA82C⟩, ⟨0xA8C4, 0xA8C5⟩, ⟨0xA8E0, 0xA8F1⟩, ⟨0xA8FF, 0xA8FF⟩,
  ⟨0xA926, 0xA92D⟩, ⟨0xA947, 0xA951⟩, ⟨0xA980, 0xA982⟩, ⟨0xA9B3, 0xA9B3⟩, ⟨0xA9B6, 0xA9B9⟩,
  ⟨0xA9BC, 0xA9BD⟩, ⟨0xA9E5, 0xA9E5⟩, ⟨0xAA29, 0xAA2E⟩, ⟨0xAA31, 0xAA32⟩, ⟨0xAA35, 0xAA36⟩,
  ⟨0xAA43, 0xAA43⟩, ⟨0xAA4C, 0xAA4C⟩, ⟨0xAA7C, 0xAA7C⟩, ⟨0xAAB0, 0xAAB0⟩, ⟨0xAAB2, 0xAAB4⟩,
  ⟨0xAAB7, 0xAAB8⟩, ⟨0xAABE, 0xAABF⟩, ⟨0xAAC1, 0xAAC1⟩, ⟨0xAAEC, 0xAAED⟩, ⟨0xAAF6, 0xAAF6⟩,
  ⟨0xABE5, 0xABE5⟩, ⟨0xABE8, 0xABE8⟩, ⟨0xABED, 0xABED⟩, ⟨0xFB1E, 0xFB1E⟩, ⟨0xFE00, 0xFE0F⟩,
  ⟨0xFE20, 0xFE2F⟩, ⟨0x101FD, 0x101FD⟩, ⟨0x102E0, 0x102E0⟩, ⟨0x10376, 0x1037A⟩,
  ⟨0x10A01, 0x10A03⟩, ⟨0x10A05, 0x10A06⟩, ⟨0x10A0C, 0x10A0F⟩, ⟨0x10A38, 0x10A3A⟩,
  ⟨0x10A3F, 0x10A3F⟩, ⟨0x10AE5, 0x10AE6⟩, ⟨0x10D24, 0x10D27⟩, ⟨0x10EAB, 0x10EAC⟩,
  ⟨0x10EFD, 0x10EFF⟩, ⟨0x10F46, 0x10F50⟩, ⟨0x10F82, 0x10F85⟩, ⟨0x11001, 0x11001⟩,
  ⟨0x11038, 0x11046⟩, ⟨0x11070, 0x11070⟩, ⟨0x11073, 0x11074⟩, ⟨0x1107F, 0x11081⟩,
  ⟨0x110B3, 0x110B6⟩, ⟨0x110B9, 0x110BA⟩, ⟨0x110C2, 0x110C2⟩, ⟨0x11100, 0x11102⟩,
  ⟨0x11127, 0x1112B⟩, ⟨0x1112D, 0x11134⟩, ⟨0x11173, 0x11173⟩, ⟨0x11180, 0x11181⟩,
  ⟨0x111B6, 0x111BE⟩, ⟨0x111C9, 0x111CC⟩, ⟨0x111CF, 0x111CF⟩, ⟨0x1122F, 0x11231⟩,
  ⟨0x11234, 0x11234⟩, ⟨0x11236, 0x11237⟩, ⟨0x1123E, 0x1123E⟩, ⟨0x11241, 0x11241⟩,
  ⟨0x112DF, 0x112DF⟩, ⟨0x112E3, 0x112EA⟩, ⟨0x11300, 0x11301⟩, ⟨0x1133B, 0x1133C⟩,
  ⟨0x11340, 0x11340⟩, ⟨0x11366, 0x1136C⟩, ⟨0x11370, 0x11374⟩, ⟨0x11438, 0x1143F⟩,
  ⟨0x11442, 0x11444⟩, ⟨0x11446, 0x11446⟩, ⟨0x1145E, 0x1145E⟩, ⟨0x114B3, 0x114B8⟩,
  ⟨0x114BA, 0x114BA⟩, ⟨0x114BF, 0x114C0⟩, ⟨0x114C2, 0x114C3⟩, ⟨0x115B2, 0x115B5⟩,
  ⟨0x115BC, 0x115BD⟩, ⟨0x115BF, 0x115C0⟩, ⟨0x115DC, 0x115DD⟩, ⟨0x11633, 0x1163A⟩,
  ⟨0x1163D, 0x1163D⟩, ⟨0x1163F, 0x11640⟩, ⟨0x116AB, 0x116AB⟩, ⟨0x116AD, 0x116AD⟩,
  ⟨0x116B0, 0x116B5⟩, ⟨0x116B7, 0x116B7⟩, ⟨0x1171D, 0x1171F⟩, ⟨0x11722, 0x11725⟩,
  ⟨0x11727, 0x1172B⟩, ⟨0x1182F, 0x11837⟩, ⟨0x11839, 0x1183A⟩, ⟨0x1193B, 0x1193C⟩,
  ⟨0x1193E, 0x1193E⟩, ⟨0x11943, 0x11943⟩, ⟨0x119D4, 0x119D7⟩, ⟨0x119DA, 0x119DB⟩,
  ⟨0x119E0, 0x119E0⟩, ⟨0x11A01, 0x11A06⟩, ⟨0x11A09, 0x11A0A⟩, ⟨0x11A33, 0x11A38⟩,
  ⟨0x11A3B, 0x11A3E⟩, ⟨0x11A47, 0x11A47⟩, ⟨0x11A51, 0x11A56⟩, ⟨0x11A59, 0x11A5B⟩,
  ⟨0x11A8A, 0x11A96⟩, ⟨0x11A98, 0x11A99⟩, ⟨0x11C30, 0x11C36⟩, ⟨0x11C38, 0x11C3D⟩,
  ⟨0x11C92, 0x11CA7⟩, ⟨0x11CAA, 0x11CB0⟩, ⟨0x11CB2, 0x11CB3⟩, ⟨0x11CB5, 0x11CB6⟩,
  ⟨0x11D31, 0x11D36⟩, ⟨0x11D3A, 0x11D3A⟩, ⟨0x11D3C, 0x11D3D⟩, ⟨0x11D3F, 0x11D45⟩,
  ⟨0x11D47, 0x11D47⟩, ⟨0x11D90, 0x11D91⟩, ⟨0x11D95, 0x11D95⟩, ⟨0x11D97, 0x11D97⟩,
  ⟨0x11EF3, 0x11EF4⟩, ⟨0x11F00, 0x11F01⟩, ⟨0x11F36, 0x11F3A⟩, ⟨0x11F40, 0x11F40⟩,
  ⟨0x11F42, 0x11F42⟩, ⟨0x13440, 0x13440⟩, ⟨0x13447, 0x13455⟩, ⟨0x16AF0, 0x16AF4⟩,
  ⟨0x16B30, 0x16B36⟩, ⟨0x16F4F, 0x16F4F⟩, ⟨0x16F8F, 0x16F92⟩, ⟨0x16FE4, 0x16FE4⟩,
  ⟨0x1BC9D, 0x1BC9E⟩, ⟨0x1CF00, 0x1CF2D⟩, ⟨0x1CF30, 0x1CF46⟩, ⟨0x1D167, 0x1D169⟩,
  ⟨0x1D17B, 0x1D182⟩, ⟨0x1D185, 0x1D18B⟩, ⟨0x1D1AA, 0x1D1AD⟩, ⟨0x1D242, 0x1D244⟩,
  ⟨0x1DA00, 0x1DA36⟩, ⟨0x1DA3B, 0x1DA6C⟩, ⟨0x1DA75, 0x1DA75⟩, ⟨0x1DA84, 0x1DA84⟩,
  ⟨0x1DA9B, 0x1DA9F⟩, ⟨0x1DAA1, 0x1DAAF⟩, ⟨0x1E000, 0x1E006⟩, ⟨0x1E008, 0x1E018⟩,
  ⟨0x1E01B, 0x1E021⟩, ⟨0x1E023, 0x1E024⟩, ⟨0x1E026, 0x1E02A⟩, ⟨0x1E08F, 0x1E08F⟩,
  ⟨0x1E130, 0x1E136⟩, ⟨0x1E2AE, 0x1E2AE⟩, ⟨0x1E2EC, 0x1E2EF⟩, ⟨0x1E4EC, 0x1E4EF⟩,
  ⟨0x1E8D0, 0x1E8D6⟩, ⟨0x1E944, 0x1E94A⟩, ⟨0xE0100, 0xE01EF⟩]

/-- Blanks, line ends and controls of direction. -/
def separatorsAndControls : CharTable := [
  ⟨0x9, 0xD⟩, ⟨0x1C, 0x20⟩, ⟨0x85, 0x85⟩, ⟨0x1680, 0x1680⟩, ⟨0x2000, 0x200A⟩, ⟨0x2028, 0x202E⟩,
  ⟨0x205F, 0x205F⟩, ⟨0x2066, 0x2069⟩, ⟨0x3000, 0x3000⟩]

end Vetting.Domain
