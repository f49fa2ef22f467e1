import StructGen.Text.CharacterName.Run

/-!
# Names of the characters from U+2460
-/

namespace StructGen.Text.CharacterName

/-- The names of the characters from U+2460 up to U+A6F7. -/
def namesFrom2460 : List Run := [
  ⟨0x2460, ["rhshwd;2ze;2yq;2td;2tc;2xu;2xo;2sr;2vs;1vxyl;2ELEVEN;2TWELVE;2THIRTEEN;2FOURTEEN;",
    "2FIFTEEN;2SIXTEEN;2SEVENTEEN;2EIGHTEEN;2NINETEEN;2zd;PARENTHESIZEDshwd;2ze;2yq;2td;2tc;",
    "2xu;2xo;2sr;2vs;1vxyl;2ELEVEN;2TWELVE;2THIRTEEN;2FOURTEEN;2FIFTEEN;2SIXTEEN;2SEVENTEEN;",
    "2EIGHTEEN;2NINETEEN;2zd;shwdtfyb;1zetfyb;1yqtfyb;1tdtfyb;1tctfyb;1xutfyb;1xotfyb;1srtfyb;",
    "1vstfyb;vxyltfyb;1ELEVENtfyb;1TWELVEtfyb;1THIRTEENtfyb;1FOURTEENtfyb;1FIFTEENtfyb;",
    "1SIXTEENtfyb;1SEVENTEENtfyb;1EIGHTEENtfyb;1NINETEENtfyb;1zdtfyb;PARENTHESIZEDuqokA;4B;4C;",
    "4D;4E;4F;4G;4H;4I;4J;4K;4L;4M;4N;4O;4P;4Q;4R;4S;4T;4U;4V;4W;4X;4Y;4Z;rhuqekA;4B;4C;4D;4E;",
    "4F;4G;4H;4I;4J;4K;4L;4M;4N;4O;4P;4Q;4R;4S;4T;4U;4V;4W;4X;4Y;4Z;2okA;4B;4C;4D;4E;4F;4G;4H;",
    "4I;4J;4K;4L;4M;4N;4O;4P;4Q;4R;4S;4T;4U;4V;4W;4X;4Y;4Z;1shzz;vprhvxELEVEN;3TWELVE;",
    "3THIRTEEN;3FOURTEEN;3FIFTEEN;3SIXTEEN;3SEVENTEEN;3EIGHTEEN;3NINETEEN;3zd;frhshwd;3ze;3yq;",
    "3td;3tc;3xu;3xo;3sr;3vs;2vxyl;vprhshzz;BOX DRAWINGSuvtz;2tvtz;2uvzn;2tvzn;2uvzarytz;",
    "2tvzarytz;2uvzaryzn;2tvzaryzn;2uvQUADRUPLErytz;2tvQUADRUPLErytz;2uvQUADRUPLEryzn;",
    "2tvQUADRUPLEryzn;2uvsnbl;2snuvbltv;3tvbluv;2tvsnbl;2uvsnbj;2snuvbjtv;3tvbjuv;2tvsnbj;",
    "2uvzgbl;2zguvbltv;3tvbluv;2tvzgbl;2uvzgbj;2zguvbjtv;3tvbjuv;2tvzgbj;2uvznbl;2znuvbltv;",
    "2zgtvblsnuv;2sntvblzguv;2zntvbluv;2snuvblzgtv;2zguvblsntv;2tvznbl;2uvznbj;2znuvbjtv;",
    "2zgtvbjsnuv;2sntvbjzguv;2zntvbjuv;2snuvbjzgtv;2zguvbjsntv;2tvznbj;2uvsnbtz;2jtvblsnuv;",
    "2ltvbjsnuv;2snuvbtztv;3tvbtzuv;2luvbjsntv;2juvblsntv;2tvsnbtz;2uvzgbtz;2jtvblzguv;",
    "2ltvbjzguv;2zguvbtztv;3tvbtzuv;2luvbjzgtv;2juvblzgtv;2tvzgbtz;2uvznbtz;2jtvblznuv;",
    "2ltvbjznuv;2znuvbtztv;2zgtvbsntzuv;2sntvbzgtzuv;2zntvbtzuv;2jzgtvblsnuv;2lzgtvbjsnuv;",
    "2jsntvblzguv;2lsntvbjzguv;2snuvbzgtztv;2zguvbsntztv;2luvbjzntv;2juvblzntv;2tvznbtz;",
    "2uvfrytz;2tvfrytz;2uvfryzn;2tvfryzn;2ftz;3zn;2snxtblf;3fblxt;2fsnbl;2snxtbjf;3fbjxt;",
    "2fsnbj;2zgxtblf;3fblxt;2fzgbl;2zgxtbjf;3fbjxt;2fzgbj;2znxtblf;3fblxt;2fznbl;2znxtbjf;",
    "3fbjxt;2fznbj;2snxtbtzf;3fbtzxt;2fsnbtz;2zgxtbtzf;3fbtzxt;2fzgbtz;2znxtbtzf;3fbtzxt;",
    "2fznbtz;2uvARCsnbl;6j;4zgbj;6l;3sezilyuvaj;5jyuval;4rs;3j;3zg;3l;3sn;2tvj;3zg;3l;3sn;",
    "2uvjbtvl;3zgbtvsn;2tvjbuvl;3zgbuvsn;zitnqv;vawdssqv;2wxqv;1yqEIGHTHSqv;1tnqv;1tcEIGHTHSqv;",
    "1yqwyqv;1xoEIGHTHSqv;tfqv;jxoEIGHTHSqv;1yqwyqv;1tcEIGHTHSqv;1tnqv;1yqEIGHTHSqv;1wdwxqv;",
    "2ssqv;ltnqv;uvSHADE;vhSHADE;DARK SHADE;ziwdssqv;lwdssqv;wwvaj;2l;1zij;3bvajbval;5l;",
    "4zilbvaj;8l;2l;3bvaj;6bval;quxy;zuxy;2pROUNDED CORNERS;2CONTAININGquoxy;xyptzFILL;2znFILL;",
    "2ORTHOGONAL CROSSHATCH FILL;2zijyuvalFILL;3lyuvajFILL;2seCROSSHATCH FILL;quoxy;zuoxy;",
    "quRECTANGLE;zuRECTANGLE;quznRECTANGLE;zuznRECTANGLE;quPARALLELOGRAM;zuPARALLELOGRAM;",
    "quzhyx;zuzhyx;quzhoyx;zuzhoyx;quxgyx;zuxgyx;quxgoyx;zuxgoyx;quxgPOINTER;zuxgPOINTER;",
    "qusoyx;zusoyx;qusooyx;zusooyx;quuryx;zuuryx;quuroyx;zuuroyx;quurPOINTER;zuurPOINTER;qusg;",
    "zusg;2CONTAININGquosg;FISHEYE;LOZENGE;zurg;slrg;rgpznFILL;BULLSEYE;qurg;rgpjtnqu;2ltnqu;",
    "2vatnqu;2zitnqu;3lwwqu;2ALL BUTzijwwqu;jtnqurg;ltnqurg;INVERSE BULLET;1zurg;",
    "zitnINVERSEzurg;vatnINVERSEzurg;zijwwCIRCULAR ARC;1lwwCIRCULAR ARC;valwwCIRCULAR ARC;",
    "1jwwCIRCULAR ARC;zitnrg;vatnrg;quvalyx;2jyx;1zijyx;2lyx;zuBULLET;xypjtnqu;2ltnqu;",
    "2zijsetnqu;2valsetnqu;zuxypznBISECTINGuw;1zhyxpsj;zhyxpjtnqu;3ltnqu;uprg;zuxypzijww;",
    "3vajww;4lww;3zilww;1rgpzijww;3vajww;4lww;3zilww;zijyx;1lyx;vajyx;zuvhxy;quvhxy;zuvhoxy;",
    "quvhoxy;valyx;quSUNpRAYS;CLOUD;UMBRELLA;SNOWMAN;COMET;quya;zuya;LIGHTNING;THUNDERSTORM;",
    "SUN;ASCENDING NODE;DESCENDING NODE;CONJUNCTION;OPPOSITION;quTELEPHONE;zuTELEPHONE;",
    "BALLOT BOX;2pCHECK;3X;SALTIRE;UMBRELLApRAIN DROPS;HOT BEVERAGE;zuSHOGI PIECE;",
    "quSHOGI PIECE;SHAMROCK;xfxiFLORALtuBULLET;qujwsuc;1lwsuc;zujwsuc;1zgwsuc;1lwsuc;1snwsuc;",
    "SKULLbCROSSBONES;CAUTIONn;RADIOACTIVEn;BIOHAZARDn;CADUCEUS;ANKH;ORTHODOXrs;CHI RHO;",
    "rsvzLORRAINE;2JERUSALEM;yabCRESCENT;FARSIyi;ADI SHAKTI;HAMMERbSICKLE;PEACEyi;YIN YANG;",
    "TRIGRAM FOR HEAVEN;2LAKE;2FIRE;2THUNDER;2WIND;2WATER;2MOUNTAIN;2EARTH;WHEELvzDHARMA;",
    "zuFROWNINGsz;1SMILINGsz;quSMILINGsz;zuSUNpRAYS;FIRSTwxMOON;LASTwxMOON;MERCURY;FEMALEn;",
    "EARTH;MALEn;JUPITER;SATURN;URANUS;NEPTUNE;PLUTO;ARIES;TAURUS;GEMINI;CANCER;LEO;VIRGO;",
    "LIBRA;SCORPIUS;SAGITTARIUS;CAPRICORN;AQUARIUS;PISCES;zurfKING;2QUEEN;2ROOK;2BISHOP;2un;",
    "2PAWN;qurfKING;2QUEEN;2ROOK;2BISHOP;2un;2PAWN;1SPADE SUIT;zutuSUIT;1sgSUIT;quCLUB SUIT;",
    "zuSPADE SUIT;qutuSUIT;1sgSUIT;zuCLUB SUIT;HOT SPRINGS;wxNOTE;ssNOTE;BEAMEDssNOTES;",
    "1SIXTEENTH NOTES;MUSIC FLATn;1NATURALn;1SHARPn;zsSYRIACrs;sqSYRIACrs;",
    "UNIVERSAL RECYCLINGyi;RECYCLINGyiFOR TYPE-1 PLASTICS;3TYPE-2 PLASTICS;3TYPE-3 PLASTICS;",
    "3TYPE-4 PLASTICS;3TYPE-5 PLASTICS;3TYPE-6 PLASTICS;3TYPE-7 PLASTICS;3GENERIC MATERIALS;",
    "quUNIVERSAL RECYCLINGyi;RECYCLED PAPERyi;PARTIALLY-RECYCLED PAPERyi;PERMANENT PAPERn;",
    "WHEELCHAIRyi;DIE FACE-1;1FACE-2;1FACE-3;1FACE-4;1FACE-5;1FACE-6;zurgpsjl;3zesk;qurgpzusjl;",
    "3zezusk;MONOGRAM FOR YANG;2YIN;DIGRAM FOR GREATER YANG;2LESSER YIN;3YANG;2GREATER YIN;",
    "zuFLAG;quFLAG;HAMMERbPICK;ANCHOR;CROSSED SWORDS;STAFFvzAESCULAPIUS;SCALES;ALEMBIC;FLOWER;",
    "GEAR;STAFFvzHERMES;ATOMyi;FLEUR-DE-LIS;OUTLINEDzuya;yqLINES CONVERGINGl;3j;WARNINGn;",
    "twVOLTAGEn;DOUBLED FEMALEn;1MALEn;INTERLOCKED FEMALEbMALEn;MALEbFEMALEn;1pydn;",
    "3bMALEbFEMALEn;znMALEpydn;tzMALEpydn;vhzurg;1qurg;1ozurg;MARRIAGEyi;DIVORCEyi;",
    "UNMARRIED PARTNERSHIPyi;COFFIN;FUNERAL URN;NEUTER;CERES;PALLAS;JUNO;VESTA;CHIRON;",
    "quMOON LILITH;SEXTILE;SEMISEXTILE;QUINCUNX;SESQUIQUADRATE;SOCCER BALL;BASEBALL;xzKEY;",
    "zuDRAUGHTS MAN;2KING;quDRAUGHTS MAN;2KING;SNOWMAN WITHOUT SNOW;SUN BEHIND CLOUD;RAIN;",
    "quSNOWMAN;THUNDER CLOUDbRAIN;zczuSHOGI PIECE;1quSHOGI PIECE;zusgINxy;rtLANES;DISABLED CAR;",
    "OPHIUCHUS;PICK;CAR SLIDING;HELMETpzurs;rhrtLANES;CHAINS;NO ENTRY;qfONE-WAYjWAY TRAFFIC;",
    "quTWO-WAYjWAY TRAFFIC;zuTWO-WAYjWAY TRAFFIC;qujLANE MERGE;zujLANE MERGE;DRIVE SLOWn;",
    "tvzusoyx;jrkENTRY;xzSALTIRE;FALLINGseINzurgINquxy;quTRUCK;RESTRICTEDjENTRY-1;2ENTRY-2;",
    "ASTRONOMICALyiFOR URANUS;tvrgpydbzeska;PENTAGRAM;RIGHT-HANDED INTERLACED PENTAGRAM;",
    "LEFT-HANDED INTERLACED PENTAGRAM;uhPENTAGRAM;qursON SHIELD;SHINTO SHRINE;CHURCH;CASTLE;",
    "HISTORIC SITE;GEAR WITHOUT HUB;1pHANDLES;MAPyiFOR LIGHTHOUSE;MOUNTAIN;UMBRELLA ON GROUND;",
    "FOUNTAIN;FLAG IN HOLE;FERRY;SAILBOAT;xytdCORNERS;SKIER;ICE SKATE;PERSONpBALL;TENT;",
    "JAPANESE BANKyi;HEADSTONE GRAVEYARDyi;FUEL PUMP;CUP ONquxy;zuFLAGptzvjquSTRIPE;",
    "quSAFETY SCISSORS;ziBLADE SCISSORS;quSCISSORS;vaBLADE SCISSORS;zuSCISSORS;1tvCHECKve;",
    "TELEPHONE LOCATIONn;TAPE DRIVE;AIRPLANE;ENVELOPE;xcFIST;1HAND;VICTORY HAND;WRITING HAND;",
    "valPENCIL;PENCIL;zilPENCIL;zuNIB;quNIB;CHECKve;tvCHECKve;vnX;tvvnX;BALLOT X;tvBALLOT X;",
    "OUTLINEDtjrs;tvtjrs;werdrs;tvwerdrs;uqrs;SHADOWEDzuuqrs;OUTLINEDuqrs;MALTESErs;yavzDAVID;",
    "tdTEARDROP-SPOKEDqp;1BALLOON-SPOKEDqp;tvtdBALLOON-SPOKEDqp;tdCLUB-SPOKEDqp;qutdwrya;",
    "zutdwrya;SPARKLES;STRESS OUTLINEDzuya;rhzuya;werdquya;qurdzuya;OUTLINEDquya;",
    "tvOUTLINEDquya;PINWHEELya;SHADOWEDzuya;tvqp;werdqp;srSPOKEDqp;1wrquya;2PINWHEELya;",
    "xuwrquya;srwrRECTILINEARquya;tvsrwrRECTILINEARquya;TWELVEwrquya;SIXTEENwrqp;",
    "TEARDROP-SPOKEDqp;werdTEARDROP-SPOKEDqp;tvTEARDROP-SPOKEDqp;xuPETALLEDqubzuFLORETTE;",
    "quFLORETTE;zuFLORETTE;srPETALLED OUTLINEDquFLORETTE;rhwerdsrwrya;",
    "tvTEARDROP-SPOKED PINWHEELqp;SNOWFLAKE;TIGHT TRIFOLIATE SNOWFLAKE;tvCHEVRON SNOWFLAKE;",
    "SPARKLE;tvSPARKLE;BALLOON-SPOKEDqp;srTEARDROP-SPOKED PROPELLERqp;",
    "tvsrTEARDROP-SPOKED PROPELLERqp;rsve;SHADOWEDzurg;vpxzrsve;valDROP-SHADOWEDzuxy;",
    "zilDROP-SHADOWEDzuxy;valSHADOWEDzuxy;zilSHADOWEDzuxy;quwzvewh;zuwzvewh;1syvewh;",
    "qusgMINUSzuX;tvsyveyi;uvznqr;vhznqr;tvznqr;1xtzcrnxavewh;2rnxavewh;1fzcrnxavewh;2rnxavewh;",
    "1uzxtrnxavewh;2frnxavewh;CURVED STEM PARAGRAPHnwh;tvsyvewh;1tusyvewh;1qutu;xitvqutuBULLET;",
    "FLORALtu;xiFLORALtuBULLET;vhjwnwh;1lwnwh;1FLATTENEDjwnwh;2lwnwh;1urqhqxwh;1xgqhqxwh;",
    "tvurqhxavewh;1xgqhxavewh;1urqhqxwh;1xgqhqxwh;uvjywSHELLqxwh;1lywSHELLqxwh;vhjrvqxwh;",
    "1lrvqxwh;DINGBATvprhshwd;4ze;4yq;4td;4tc;4xu;4xo;4sr;4vs;3vxyl;1rhxkshwd;4ze;4yq;4td;4tc;",
    "4xu;4xo;4sr;4vs;3vxyl;1vprhxkshwd;5ze;5yq;5td;5tc;5xu;5xo;5sr;5vs;4vxyl;tvWIDE-HEADEDmc;",
    "1wqn;1MINUSn;1DIVISIONn;1xxsqc;1mc;1vvsqc;DRAFTING POINTmc;tvROUND-TIPPEDmc;yymc;tvyymc;",
    "DASHEDyymc;tvDASHEDyymc;qumc;THREE-D TOP-LIGHTEDmqo;1BOTTOM-LIGHTEDmqo;qumqo;",
    "tvquCURVEDspbmc;3zkbmc;SQUATqumc;tvCONCAVE-POINTEDqumc;RIGHT-SHADEDzumc;LEFT-SHADEDzumc;",
    "BACK-TILTED SHADOWEDzumc;FRONT-TILTED SHADOWEDzumc;tvvaRIGHT-SHADOWEDzumc;",
    "1ziRIGHT-SHADOWEDzumc;NOTCHEDvaRIGHT-SHADOWEDzumc;rvLOOP;NOTCHEDziRIGHT-SHADOWEDzumc;",
    "rhtvzumc;WHITE-FEATHEREDmc;BLACK-FEATHEREDxxsqc;1mc;1vvsqc;tvBLACK-FEATHEREDxxsqc;2mc;",
    "2vvsqc;TEARDROP-BARBEDmc;tvTEARDROP-SHANKEDmc;WEDGE-TAILEDmc;tvWEDGE-TAILEDmc;",
    "OPEN-OUTLINEDmc;frvLOOP;yqDIMENSIONALqh;zuyxCONTAININGozuyx;PERPENDICULAR;weye;1yg;",
    "jS-SHAPED BAG DELIMITER;lS-SHAPED BAG DELIMITER;ORpsjINSIDE;xexwPRECEDINGye;ygPRECEDINGxw;",
    "znqrptzyd;vfRISINGse;uyDIVISION;vfFALLINGse;xzLOGICALb;2OR;zusgpCENTREDsj;bpsj;",
    "ELEMENTvzOPENINGzk;valrrpsj;zijrrpsj;jOUTER JOIN;lOUTER JOIN;tfOUTER JOIN;upzgTACK;",
    "1snTACK;jblfTURNSTILE;3TACK;1MULTIMAP;uylTACK;1jTACK;zgTACKprga;LOZENGE DIVIDED BYtzRULE;",
    "zuCONCAVE-SIDEDsg;3pusTICK;4mTICK;1xypusTICK;3mTICK;vfjzuxyqx;1lzuxyqx;1jqhqx;1lqhqx;",
    "1jfqhqx;1lfqhqx;1jzuywSHELLqx;1lzuywSHELLqx;1jFLATTENEDwn;1lFLATTENEDwn;zkQUADRUPLEc;",
    "spQUADRUPLEc;qiGAPPEDrgc;rjGAPPEDrgc;lcprhwq;uyusc;1mc;1jlc;1usfc;1mfc;1jlfc;1uscFROMqr;",
    "1mcFROMqr;1usfcFROMqr;1mfcFROMqr;2SQUIGGLEc;BRAILLE PATTERN BLANK;2DOTS-1;2DOTS-2;",
    "2DOTS-12;2DOTS-3;2DOTS-13;2DOTS-23;2DOTS-123;2DOTS-4;2DOTS-14;2DOTS-24;2DOTS-124;2DOTS-34;",
    "2DOTS-134;2DOTS-234;2DOTS-1234;2DOTS-5;2DOTS-15;2DOTS-25;2DOTS-125;2DOTS-35;2DOTS-135;",
    "2DOTS-235;2DOTS-1235;2DOTS-45;2DOTS-145;2DOTS-245;2DOTS-1245;2DOTS-345;2DOTS-1345;",
    "2DOTS-2345;2DOTS-12345;2DOTS-6;2DOTS-16;2DOTS-26;2DOTS-126;2DOTS-36;2DOTS-136;2DOTS-236;",
    "2DOTS-1236;2DOTS-46;2DOTS-146;2DOTS-246;2DOTS-1246;2DOTS-346;2DOTS-1346;2DOTS-2346;",
    "2DOTS-12346;2DOTS-56;2DOTS-156;2DOTS-256;2DOTS-1256;2DOTS-356;2DOTS-1356;2DOTS-2356;",
    "2DOTS-12356;2DOTS-456;2DOTS-1456;2DOTS-2456;2DOTS-12456;2DOTS-3456;2DOTS-13456;",
    "2DOTS-23456;2DOTS-123456;2DOTS-7;2DOTS-17;2DOTS-27;2DOTS-127;2DOTS-37;2DOTS-137;2DOTS-237;",
    "2DOTS-1237;2DOTS-47;2DOTS-147;2DOTS-247;2DOTS-1247;2DOTS-347;2DOTS-1347;2DOTS-2347;",
    "2DOTS-12347;2DOTS-57;2DOTS-157;2DOTS-257;2DOTS-1257;2DOTS-357;2DOTS-1357;2DOTS-2357;",
    "2DOTS-12357;2DOTS-457;2DOTS-1457;2DOTS-2457;2DOTS-12457;2DOTS-3457;2DOTS-13457;",
    "2DOTS-23457;2DOTS-123457;2DOTS-67;2DOTS-167;2DOTS-267;2DOTS-1267;2DOTS-367;2DOTS-1367;",
    "2DOTS-2367;2DOTS-12367;2DOTS-467;2DOTS-1467;2DOTS-2467;2DOTS-12467;2DOTS-3467;2DOTS-13467;",
    "2DOTS-23467;2DOTS-123467;2DOTS-567;2DOTS-1567;2DOTS-2567;2DOTS-12567;2DOTS-3567;",
    "2DOTS-13567;2DOTS-23567;2DOTS-123567;2DOTS-4567;2DOTS-14567;2DOTS-24567;2DOTS-124567;",
    "2DOTS-34567;2DOTS-134567;2DOTS-234567;2DOTS-1234567;2DOTS-8;2DOTS-18;2DOTS-28;2DOTS-128;",
    "2DOTS-38;2DOTS-138;2DOTS-238;2DOTS-1238;2DOTS-48;2DOTS-148;2DOTS-248;2DOTS-1248;2DOTS-348;",
    "2DOTS-1348;2DOTS-2348;2DOTS-12348;2DOTS-58;2DOTS-158;2DOTS-258;2DOTS-1258;2DOTS-358;",
    "2DOTS-1358;2DOTS-2358;2DOTS-12358;2DOTS-458;2DOTS-1458;2DOTS-2458;2DOTS-12458;2DOTS-3458;",
    "2DOTS-13458;2DOTS-23458;2DOTS-123458;2DOTS-68;2DOTS-168;2DOTS-268;2DOTS-1268;2DOTS-368;",
    "2DOTS-1368;2DOTS-2368;2DOTS-12368;2DOTS-468;2DOTS-1468;2DOTS-2468;2DOTS-12468;2DOTS-3468;",
    "2DOTS-13468;2DOTS-23468;2DOTS-123468;2DOTS-568;2DOTS-1568;2DOTS-2568;2DOTS-12568;",
    "2DOTS-3568;2DOTS-13568;2DOTS-23568;2DOTS-123568;2DOTS-4568;2DOTS-14568;2DOTS-24568;",
    "2DOTS-124568;2DOTS-34568;2DOTS-134568;2DOTS-234568;2DOTS-1234568;2DOTS-78;2DOTS-178;",
    "2DOTS-278;2DOTS-1278;2DOTS-378;2DOTS-1378;2DOTS-2378;2DOTS-12378;2DOTS-478;2DOTS-1478;",
    "2DOTS-2478;2DOTS-12478;2DOTS-3478;2DOTS-13478;2DOTS-23478;2DOTS-123478;2DOTS-578;",
    "2DOTS-1578;2DOTS-2578;2DOTS-12578;2DOTS-3578;2DOTS-13578;2DOTS-23578;2DOTS-123578;",
    "2DOTS-4578;2DOTS-14578;2DOTS-24578;2DOTS-124578;2DOTS-34578;2DOTS-134578;2DOTS-234578;",
    "2DOTS-1234578;2DOTS-678;2DOTS-1678;2DOTS-2678;2DOTS-12678;2DOTS-3678;2DOTS-13678;",
    "2DOTS-23678;2DOTS-123678;2DOTS-4678;2DOTS-14678;2DOTS-24678;2DOTS-124678;2DOTS-34678;",
    "2DOTS-134678;2DOTS-234678;2DOTS-1234678;2DOTS-5678;2DOTS-15678;2DOTS-25678;2DOTS-125678;",
    "2DOTS-35678;2DOTS-135678;2DOTS-235678;2DOTS-1235678;2DOTS-45678;2DOTS-145678;2DOTS-245678;",
    "2DOTS-1245678;2DOTS-345678;2DOTS-1345678;2DOTS-2345678;2DOTS-12345678;mTWO-HEADEDcpznyd;",
    "4fznyd;usfcpznyd;mfcpznyd;jlfcpznyd;mTWO-HEADEDcFROMqr;usfcFROMqr;mfcFROMqr;spcptzyd;",
    "zkcptzyd;1zac;spzac;usfryc;mfryc;uszaryc;mzaryc;1TWO-HEADEDzaryc;1cpslSTEM;zkcyuqr;",
    "spcyuqr;mcpykpznyd;5fznyd;1TWO-HEADEDcpyk;5pznyd;6fznyd;usARROW-TAIL;mARROW-TAIL;",
    "usfARROW-TAIL;mfARROW-TAIL;uscyuqusg;mcyuqusg;uscFROMqryuqusg;mcFROMqryuqusg;vvzsbxxsqc;",
    "1sqbxxzsc;1zscpty;1sqcpty;xxsqcpty;1zscpty;vvzscbvvsqc;1sqcbxxsqc;xxsqcbxxzsc;1zscbvvzsc;",
    "RISINGsertFALLINGse;FALLINGsertRISINGse;xxsqcrtvvsqc;vvsqcrtxxsqc;FALLINGsertvvsqc;",
    "RISINGsertxxsqc;vvsqcrtvvzsc;1zscrtvvsqc;WAVEcwsDIRECTLYl;cwsmTHEN CURVINGzk;5sp;",
    "2spTHEN CURVINGus;5m;RIGHT-SIDE ARCrjc;LEFT-SIDE ARCqic;TOP ARCqic;qwARCqic;",
    "TOP ARCrjcpMINUS;2qicpwq;valSEMICIRCULARrjc;1jSEMICIRCULARqic;qirkrgc;rjrkrgc;mcaxrusc;",
    "uscaxrmc;xrmcausc;mcpwqd;uscpwqd;mcTHROUGH X;jlcTHROUGHorg;zkTWO-HEADEDcFROMorg;",
    "jqszglqssntt;2snlqszgtt;zgqslsnqsjtt;2jsnqsltt;jqszglqszgtt;zgqslsnqsltt;jqssnlqssntt;",
    "zgqsjsnqsjtt;usttpqszgyuqr;mttpqszgyuqr;zkttpqslyuqr;spttpqslyuqr;usttpqssnyuqr;",
    "mttpqssnyuqr;zkttpqsjyuqr;spttpqsjyuqr;usttpqszgFROMqr;mttpqszgFROMqr;zkttpqslFROMqr;",
    "spttpqslFROMqr;usttpqssnFROMqr;mttpqssnFROMqr;zkttpqsjFROMqr;spttpqsjFROMqr;",
    "usttpqszgausttpqssn;zkttpqsjBESIDEzkttpqsl;mttpqszgamttpqssn;spttpqsjBESIDEspttpqsl;",
    "usttpqszgamttpqszg;4snamttpqssn;mttpqszgausttpqszg;4snausttpqssn;usttpqszgauyry;4snduyry;",
    "mttpqszgauyry;4snduyry;zkttpqsjBESIDEspttpqsl;spttpqsjBESIDEzkttpqsl;lfcpROUNDED HEAD;",
    "svnamc;yswfamc;uscayswf;mcayswf;3ALMOSTsuyu;utausc;uscTHROUGHut;tiamc;yeamc;uscTHROUGHye;",
    "ygausc;jFISHyk;lFISHyk;zgFISHyk;snFISHyk;zaznqrDELIMITER;Z NOTATION SPOT;2TYPErl;jzurvqx;",
    "lzurvqx;jzuwn;lzuwn;Z NOTATIONjIMAGEqx;2lIMAGEqx;2jBINDINGqx;2lBINDINGqx;jxyqxpzf;",
    "lxyqxpzf;jxyqxpTICK IN TOPrr;lxyqxpTICK INqwrr;jxyqxpTICK INqwrr;lxyqxpTICK IN TOPrr;",
    "jqhqxpsj;lqhqxpsj;jARCutqx;lARCtiqx;fjARCtiqx;1lARCutqx;jquywSHELLqx;lquywSHELLqx;slFENCE;",
    "znZIGZAGuw;MEASUREDqhOPENINGj;lqhzmpxy;MEASUREDlqhpsj;qhpS INSIDE;qcqh;",
    "SPHERICALqhOPENINGj;3zg;zcqh;xfqh;qhpzf;xfqhpzf;OBLIQUEqhOPENINGzg;3sn;",
    "MEASUREDqhpweARM ENDING INcwszgbl;9zgbj;9snbl;9snbj;9lbzg;9jbzg;9lbsn;9jbsn;xfEMPTY SET;",
    "EMPTY SETpOVERBAR;3orga;3lca;3jca;rgptzqr;rhznqr;1PARALLEL;1xexw;1PERPENDICULAR;",
    "rgDIVIDED BYtzqrbTOPtnDIVIDED BYznqr;1pSUPERIMPOSED X;rhANTICLOCKWISE-ROTATED DIVISIONn;",
    "zgcTHROUGHrg;rhzuBULLET;1BULLET;1ut;1ti;rgporgyuTHEl;2zetzSTROKESyuTHEl;xzRISINGseSLASH;",
    "1FALLINGseSLASH;1qp;1org;1xy;zeJOINED SQUARES;yxpsja;2zf;S INyx;yxpSERIFS ATqw;lyxajyx;",
    "jyxBESIDEznqr;znqrBESIDElyx;BOWTIEpjtnqu;2ltnqu;quBOWTIE;ytpjtnqu;2ltnqu;zuHOURGLASS;",
    "quHOURGLASS;jWIGGLY FENCE;lWIGGLY FENCE;jfWIGGLY FENCE;lfWIGGLY FENCE;INCOMPLETE INFINITY;",
    "TIEwiINFINITY;INFINITY NEGATEDpznqr;DOUBLE-ENDED MULTIMAP;xypCONTOURED OUTLINE;",
    "INCREASES AS;SHUFFLE PRODUCT;svnbxvPARALLEL;5pysa;IDENTICALyubxvPARALLEL;GLEICH STARK;",
    "THERMODYNAMIC;soyxpjtnqu;3ltnqu;qusgpsnc;1LOZENGE;zurgpsnc;qurgpsnc;ERROR-BARREDzuxy;",
    "1quxy;1zusg;1qusg;1zurg;1qurg;RULE-DELAYED;xexwwf;xwpOVERBAR;xexwptzyd;BIGxw;1xexw;fwq;",
    "zawq;urCURVEDqhqx;xgCURVEDqhqx;TINY;MINY;N-ARYrhsjwf;2wqwf;2ytwf;1UNIONwfpsj;4wq;1xyugwf;",
    "2UNIONwf;zeLOGICALbwf;2ORwf;N-ARYytwf;MODULOzeSUM;SUMMATIONpuf;QUADRUPLEufwf;",
    "FINITE PARTuf;ufpfyd;1AVERAGEpSLASH;CIRCULATION FUNCTION;qiINTEGRATION;",
    "uwINTEGRATIONpRECTANGULAR PATH AROUND POLE;3SEMICIRCULAR PATH AROUND POLE;",
    "2vwINCLUDING THE POLE;ufAROUND A POINTwf;QUATERNIONufwf;ufpuscpty;2ytn;2ug;2UNION;",
    "2OVERBAR;2zf;JOIN;upjyxwf;Z NOTATION SCHEMA COMPOSITION;3PIPING;3PROJECTION;wqnporga;",
    "3riqba;3ysa;3sjd;3ysd;3SUBSCRIPTze;3quyx;MINUSnprna;3sjd;3FALLINGsk;3RISINGsk;wqnINjtnrg;",
    "3ltnrg;VECTOR ORrsPRODUCT;vnnpsja;3zf;SEMIDIRECT PRODUCTpqwrk;SMASH PRODUCT;vnnINjtnrg;",
    "3ltnrg;rhvnnpriqb;vnnINfrg;rhDIVISIONn;wqnINyx;MINUSnINyx;vnnINyx;INTERIOR PRODUCT;",
    "RIGHTHAND INTERIOR PRODUCT;Z NOTATION RELATIONAL COMPOSITION;AMALGAMATION OR COPRODUCT;",
    "ugpsj;UNIONpMINUSn;2OVERBAR;ugpOVERBAR;2LOGICALb;UNIONpLOGICAL OR;1aug;ugaUNION;",
    "UNIONaqraug;ugaqraUNION;UNION BESIDEbJOINEDpUNION;ugBESIDEbJOINEDpug;rkUNIONpSERIFS;",
    "1ugpSERIFS;fxyug;2UNION;rkUNIONpSERIFSbSMASH PRODUCT;LOGICALbpsja;1ORpsja;fLOGICALb;2OR;",
    "zeINTERSECTING LOGICALb;3OR;SLOPINGupOR;2b;LOGICAL OR OVERLAPPING LOGICALb;1bpvjSTEM;",
    "1ORpvjSTEM;1bptzry;1ORptzry;1bpfOVERBAR;3zf;3fzf;oVEEpzf;LOGICAL ORpfOVERBAR;4zf;",
    "Z NOTATION DOMAIN ANTIRESTRICTION;2RANGE ANTIRESTRICTION;svnpsjd;IDENTICALpsja;",
    "zatzqrpfznyd;4zaznyd;yswfpsja;3RISINGsk;SIMILAR MINUS SIMILAR;CONGRUENTpsja;svpqp;",
    "ALMOSTsuyupriqb;APPROXIMATELYsuORsuyu;svnawqn;wqnasvn;svnayswf;frlsu;zeCONSECUTIVEsvSIGNS;",
    "yqCONSECUTIVEsvSIGNS;svnpzeskabzeskd;sxptdska;utprgINSIDE;tiprgINSIDE;utpwzvea;tipwzvea;",
    "utORxvsuyu;tiORxvsuyu;utORxvsuyupsjINSIDE;tiORxvsuyupsjINSIDE;utORxvsuyupsja;",
    "tiORxvsuyupsja;utORxvsuyupsjal;tiORxvsuyupsjaj;utOR APPROXIMATE;tiOR APPROXIMATE;",
    "utbSINGLE-LINEvwsuyu;tibSINGLE-LINEvwsuyu;utbvwAPPROXIMATE;tibvwAPPROXIMATE;",
    "utaDOUBLE-LINEsuati;tiaDOUBLE-LINEsuaut;utaSIMILAR ORsu;tiaSIMILAR ORsu;utaSIMILARati;",
    "tiaSIMILARaut;utatiaDOUBLE-LINEsu;tiautaDOUBLE-LINEsu;utaxvsuatiaxvsu;tiaxvsuautaxvsu;",
    "xvsuyuORut;4ti;4utpsjINSIDE;4tipsjINSIDE;DOUBLE-LINEsuyuORut;4ti;1xvsuyuORut;5ti;",
    "SIMILAR ORut;2ti;1autasvn;2tiasvn;fNESTEDut;2ti;2utpzf;tiOVERLAPPINGut;1BESIDEut;",
    "utrkBY CURVE;tirkBY CURVE;utrkBY CURVEaxvsu;tirkBY CURVEaxvsu;SMALLER THAN;LARGER THAN;",
    "SMALLER THAN ORsuyu;LARGER THAN ORsuyu;svnpBUMPYa;PRECEDESaSINGLE-LINEsvn;",
    "SUCCEEDSaSINGLE-LINEsvn;PRECEDESaSINGLE-LINEvwsuyu;SUCCEEDSaSINGLE-LINEvwsuyu;",
    "PRECEDESasvn;SUCCEEDSasvn;PRECEDESavwsuyu;SUCCEEDSavwsuyu;PRECEDESaALMOSTsuyu;",
    "SUCCEEDSaALMOSTsuyu;PRECEDESavwALMOSTsuyu;SUCCEEDSavwALMOSTsuyu;fPRECEDES;1SUCCEEDS;yepsj;",
    "ygpsj;yepwqnd;ygpwqnd;yepvnnd;ygpvnnd;yevzORsuyupsja;ygvzORsuyupsja;yevzasvn;ygvzasvn;",
    "yevzayswf;ygvzayswf;yevzaALMOSTsuyu;ygvzaALMOSTsuyu;yevzavwsuyu;ygvzavwsuyu;xyjweBOXwf;",
    "1lweBOXwf;rkye;1yg;1yeORsuyu;1ygORsuyu;yeayg;ygaye;yeaye;ygayg;1BESIDEye;2bJOINED BYrypye;",
    "ELEMENTvzOPENINGsp;PITCHFORKpTEE TOP;TRANSVERSALug;FORKING;NONFORKING;xrjTACK;1snTACK;",
    "1zgTACK;PERPENDICULARpS;znqrzalTURNSTILE;fznqrjTURNSTILE;znqrfjTURNSTILE;fznqrfjTURNSTILE;",
    "uyryFROMjMEMBERvzfzn;xrsnTACKpOVERBAR;1zgTACKpzf;3axrsnTACK;fsnTACK;1zgTACK;1ydvwn;",
    "xffydvwn;DOESvwDIVIDEpxfNEGATION SLASH;znuwprga;4d;snTACKprgd;PARALLELptzyd;2yswf;",
    "zaznqrBINARY RELATION;3ptzyd;1rlwf;1NESTEDut;2ti;DOUBLE-LINExvutORsuyu;2tiORsuyu;",
    "zaxwBINARY RELATION;upzaznqrwf;fxwwf;zuznqr;N-ARYzuznqr;vvsqzuc;1zszuc;xxsqzuc;1zszuc;",
    "jlzuc;usquc;zkquc;spquc;vvsqquc;1zsquc;xxsqquc;1zsquc;jlquc;zgsnquc;mcpTIPsp;4zk;",
    "uscpTIPsp;4zk;xypTOPtnqu;2qwtnqu;2zilsetnqu;2vajsetnqu;sgpjtnqu;2ltnqu;2TOPtnqu;2qwtnqu;",
    "slxy;quupxy;zuupxy;quVERYoxy;zuVERYoxy;quPENTAGON;zuPENTAGON;1HEXAGON;quHEXAGON;",
    "tzquHEXAGON;quuprg;1vhsg;zuvhsg;quvhLOZENGE;zuvhLOZENGE;quosg;2LOZENGE;zuoLOZENGE;",
    "qutzELLIPSE;zutzELLIPSE;quznELLIPSE;zuznELLIPSE;jcporg;yqusARROWS;jcprhwq;uyusSQUIGGLEc;",
    "usTWO-HEADEDcpznyd;4fznyd;3FROMqr;2zaryc;1cpslSTEM;3ykpznyd;5fznyd;1TWO-HEADEDcpyk;5pznyd;",
    "6fznyd;1cTHROUGH X;WAVEcwsDIRECTLYj;svnausc;xeyswfausc;uscaxeALMOSTsuyu;mcTHROUGHti;3yg;",
    "usQUADRUPLEc;mQUADRUPLEc;xeyswfamc;mcaxeALMOSTsuyu;yswfausc;uscaALMOSTsuyu;3xeyswf;",
    "mcaxeyswf;spyyZIGZAGc;xrxvvvc;1BACKSLANTEDxxc;zuvhya;quoya;zuoya;quxgPENTAGON;",
    "zuxgPENTAGON;tvuprg;1OVALpOVAL INSIDE;1rgprgINSIDE;1rg;1rhSALTIRE;xvvvcpHOOKED HEAD;",
    "BACKSLANTEDxxcpHOOKEDyk;xvvvcptzyk;BACKSLANTEDxxcptzyk;BENTcwsspTHENvvsq;",
    "xrBENTcwsspTHENvvsq;usyyc;zkyyc;myyc;spyyc;jlyyc;zgsnyyc;vvzsyyc;1sqyyc;xxsqyyc;1zsyyc;",
    "usyyDASHEDc;zkyyDASHEDc;myyDASHEDc;spyyDASHEDc;rjyywergc;qiyywergc;usyycyuqr;zkyycyuqr;",
    "myycyuqr;spyycyuqr;;;vvzsyycyuqr;1sqyycyuqr;xxsqyycyuqr;1zsyycyuqr;usyycpftzyd;",
    "zkyycpftzyd;myycpftzyd;spyycpftzyd;tzTAB KEY;znTAB KEY;usyycwimyyc;zkyycusvzspyyc;",
    "myycwiusyyc;spyycusvzzkyyc;usyyPAIRED ARROWS;zkyyPAIRED ARROWS;myyPAIRED ARROWS;",
    "spyyPAIRED ARROWS;usqurhzuc;zkqurhzuc;mqurhzuc;spqurhzuc;qiyylU-SHAPEDc;2qwU-SHAPEDc;",
    "2jU-SHAPEDc;2TOP U-SHAPEDc;RETURNj;1l;NEWLINEj;1l;tdrrARROWS CIRCLINGqi;mquc;;",
    "yiFOR TYPE A ELECTRONICS;THREE-D TOP-LIGHTEDusswqo;1RIGHT-LIGHTEDzkswqo;1TOP-LIGHTEDmswqo;",
    "1LEFT-LIGHTEDspswqo;quusswqo;1zkswqo;1mswqo;1spswqo;spyycpuyTIPus;6m;zkyycpuyTIPus;6m;",
    "usyycpuyTIPzk;myycpuyTIPzk;usyycpuyTIPsp;myycpuyTIPsp;quCURVEDspbusc;4mc;2zkbusc;4mc;",
    "2usbzkc;2mbzkc;2usbspc;2mbspc;RIBBONcsnj;3l;2zgj;3l;2jzg;2lzg;2jsn;2lsn;zkzucFROMqrptzqr;",
    "zgqoIN A RECTANGLE BOX;OVERLAPPINGzuSQUARES;2bquSQUARES;1quSQUARES;BALLOT BOXpuvX;rhX;",
    "1BOLD X;quxyCENTRED;1sgCENTRED;zcquPENTAGON;tzquOCTAGON;quOCTAGON;1vhzhyxCENTRED;",
    "2soyxCENTRED;2uryxCENTRED;2xgyxCENTRED;NEPTUNEhze;TOPtnqurg;qwtnqurg;uvtdwrquCUSP;",
    "xiuvtdwrquCUSP;zutdwrCUSP;xizutdwrCUSP;xyPOSITION INDICATOR;UNCERTAINTYn;GROUPve;PLUTOhze;",
    "2yq;2td;2tc;TRANSPLUTO;PROSERPINA;ASTRAEA;HYGIEA;PHOLUS;NESSUS;zuMOON SELENA;qusgONrs;",
    "TRUEuvMOON ARTA;CUPIDO;HADES;ZEUS;KRONOS;APOLLON;ADMETOS;VULCANUS;POSEIDON;jtnquya;",
    "ltnquya;yapjtnqu;2ltnqu;usTWO-HEADEDcpyxARROWHEADS;zkTWO-HEADEDcpyxARROWHEADS;",
    "mTWO-HEADEDcpyxARROWHEADS;spTWO-HEADEDcpyxARROWHEADS;ERIShwd;2ze;SEDNA;",
    "RUSSIAN ASTROLOGICALyiVIGINTILE;3NOVILE;3QUINTILE;3BINOVILE;3SENTAGON;3TREDECILE;",
    "svnpINFINITYd;UNITEDyi;SEPARATEDyi;DOUBLEDyi;PASSEDyi;xflqh;HELLSCHREIBER PAUSEyi;",
    "GLAGOLITICekAZU;3BUKY;3VEDE;3GLAGOLI;3DOBRO;3YESTU;3ZHIVETE;3DZELO;3ZEMLJA;3IZHE;3udIZHE;",
    "3I;3DJERVI;3KAKO;3LJUDIJE;3MYSLITE;3NASHI;3ONU;3POKOJI;3RITSI;3SLOVO;3TVRIDO;3UKU;3FRITU;",
    "3HERU;3OTU;3PE;3SHTA;3TSI;3CHRIVI;3xq;3YERU;3YERI;3YATI;3SPIDERYtl;3YU;3oYUS;5pyk;3YO;",
    "3IOTATEDoYUS;3BIG YUS;3IOTATED BIG YUS;3FITA;3IZHITSA;3SHTAPIC;3TROKUTASTI A;",
    "3LATINATE MYSLITE;3CAUDATE CHRIVI;1okAZU;3BUKY;3VEDE;3GLAGOLI;3DOBRO;3YESTU;3ZHIVETE;",
    "3DZELO;3ZEMLJA;3IZHE;3udIZHE;3I;3DJERVI;3KAKO;3LJUDIJE;3MYSLITE;3NASHI;3ONU;3POKOJI;",
    "3RITSI;3SLOVO;3TVRIDO;3UKU;3FRITU;3HERU;3OTU;3PE;3SHTA;3TSI;3CHRIVI;3xq;3YERU;3YERI;3YATI;",
    "3SPIDERYtl;3YU;3oYUS;5pyk;3YO;3IOTATEDoYUS;3BIG YUS;3IOTATED BIG YUS;3FITA;3IZHITSA;",
    "3SHTAPIC;3TROKUTASTI A;3LATINATE MYSLITE;3CAUDATE CHRIVI;uqekLpfqr;1okLpfqr;1ekLpvjys;",
    "3Ppyd;3Rpyk;1okApyd;3Tpseyd;1ekHpsc;1okHpsc;1ekKpsc;1okKpsc;1ekZpsc;1okZpsc;1ekqe;3Mpty;",
    "3zcA;4qe;1okVplty;1ekWpty;1okWpty;3VpCURL;1ektnH;1oktnH;3TAILLESS PHI;3EpNOTCH;3zcRpyk;",
    "3OpuzxhINSIDE;1koezcE;1SUBSCRIPTokJ;vkkeV;uqekSpSWASHyk;3ZpSWASHyk;rqekALFA;1okALFA;",
    "1ekVIDA;1okVIDA;1ekGAMMA;1okGAMMA;1ekDALDA;1okDALDA;1ekEIE;1okEIE;1ekSOU;1okSOU;1ekZATA;",
    "1okZATA;1ekHATE;1okHATE;1ekTHETHE;1okTHETHE;1ekIAUDA;1okIAUDA;1ekKAPA;1okKAPA;1ekLAULA;",
    "1okLAULA;1ekMI;1okMI;1ekNI;1okNI;1ekKSI;1okKSI;1ekO;1okO;1ekPI;1okPI;1ekRO;1okRO;1ekSIMA;",
    "1okSIMA;1ekTAU;1okTAU;1ekUA;1okUA;1ekFI;1okFI;1ekKHI;1okKHI;1ekPSI;1okPSI;1ekOOU;1okOOU;",
    "1ekDIALECT-Pqd;1okDIALECT-Pqd;1ekwarqAIN;1okwarqAIN;1ekruEIE;1okruEIE;1ekDIALECT-P KAPA;",
    "1okDIALECT-P KAPA;1ekDIALECT-P NI;1okDIALECT-P NI;1ekruNI;1okruNI;1ekwarqOOU;1okwarqOOU;",
    "1ekSAMPI;1okSAMPI;1ekCROSSED SHEI;1okCROSSED SHEI;1ekwarqSHEI;1okwarqSHEI;1ekwarqESH;",
    "1okwarqESH;1ekAKHMIMIC KHEI;1okAKHMIMIC KHEI;1ekDIALECT-P HORI;1okDIALECT-P HORI;",
    "1ekwarqHORI;1okwarqHORI;1ekwarqtl;1okwarqtl;1ekL-SHAPEDtl;1okL-SHAPEDtl;1ekwarqHEI;",
    "1okwarqHEI;1ekwarqHAT;1okwarqHAT;1ekwarqGANGIA;1okwarqGANGIA;1ekwarqDJA;1okwarqDJA;",
    "1ekwarqSHIMA;1okwarqSHIMA;1ekwaNUBIAN SHIMA;1okwaNUBIAN SHIMA;1ekwaNUBIAN NGI;",
    "1okwaNUBIAN NGI;1ekwaNUBIAN NYI;1okwaNUBIAN NYI;1ekwaNUBIAN WAU;1okwaNUBIAN WAU;1yiKAI;",
    "2MI RO;2PI RO;2STAUROS;2TAU RO;2KHI RO;2SHIMA SIMA;1ekruSHEI;1okruSHEI;1ekruGANGIA;",
    "1okruGANGIA;1rmNIa;2SPIRITUS ASPER;3LENIS;1ekBOHAIRIC KHEI;1okBOHAIRIC KHEI"]⟩,
  ⟨0x2CF9, ["rqwaNUBIANtfyb;3DIRECTwzve;3INDIRECTwzve;3VERSE DIVIDER;1tewdtn;1tfyb;",
    "1MORPHOLOGICAL DIVIDER;GEORGIANokAN;3BAN;3GAN;3DON;3EN;3VIN;3ZEN;3TAN;3IN;3KAN;3LAS;3MAN;",
    "3NAR;3ON;3PAR;3ZHAR;3RAE;3SAN;3TAR;3UN;3PHAR;3KHAR;3GHAN;3QAR;3SHIN;3CHIN;3CAN;3JIL;3CIL;",
    "3CHAR;3XAN;3JHAN;3HAE;3HE;3HIE;3WE;3HAR;3HOE;;3YN"]⟩,
  ⟨0x2D2D, ["GEORGIANokAEN;;;TIFINAGHkzv;2YAB;2YABH;2YAG;2YAGHH;2BERBER ACADEMY YAJ;2YAJ;2YAD;",
    "2YADH;2YADD;2YADDH;2YEY;2YAF;2YAK;2TUAREG YAK;2YAKHH;2YAH;2BERBER ACADEMY YAH;2TUAREG YAH;",
    "2YAHH;2YAA;2YAKH;2TUAREG YAKH;2YAQ;2TUAREG YAQ;2YI;2YAZH;2AHAGGAR YAZH;2TUAREG YAZH;2YAL;",
    "2YAM;2YAN;2TUAREG YAGN;3YANG;2YAP;2YU;2YAR;2YARR;2YAGH;2TUAREG YAGH;2AYER YAGH;2YAS;2YASS;",
    "2YASH;2YAT;2YATH;2YACH;2YATT;2YAV;2YAW;2YAY;2YAZ;2TAWELLEMET YAZ;2YAZZ;2YE;2YO"]⟩,
  ⟨0x2D6F, ["TIFINAGHvkkLABIALIZATIONve;1xnve"]⟩,
  ⟨0x2D7F, ["TIFINAGHrpJOINER;ETHIOPICyhLOA;2MOA;2ROA;2SOA;2SHOA;2BOA;2TOA;2COA;2NOA;2NYOA;",
    "2tgOA;2ZOA;2DOA;2DDOA;2JOA;2THOA;2CHOA;2PHOA;2POA;2GGWA;2GGWI;2GGWEE;2GGWE"]⟩,
  ⟨0x2DA0, ["ETHIOPICyhSSA;2SSU;2SSI;2SSAA;2SSEE;2SSE;2SSO;;2CCA;2CCU;2CCI;2CCAA;2CCEE;2CCE;",
    "2CCO;;2ZZA;2ZZU;2ZZI;2ZZAA;2ZZEE;2ZZE;2ZZO;;2CCHA;2CCHU;2CCHI;2CCHAA;2CCHEE;2CCHE;2CCHO;;",
    "2QYA;2QYU;2QYI;2QYAA;2QYEE;2QYE;2QYO;;2KYA;2KYU;2KYI;2KYAA;2KYEE;2KYE;2KYO;;2XYA;2XYU;",
    "2XYI;2XYAA;2XYEE;2XYE;2XYO;;2GYA;2GYU;2GYI;2GYAA;2GYEE;2GYE;2GYO;;rmCYRILLICkBE;3VE;3GHE;",
    "3DE;3ZHE;3ZE;3uk;3EL;3EM;3EN;3O;3PE;3ER;3ES;3TE;3tl;3TSE;3CHE;3xq;3SHCHA;3FITA;3ES-TE;3A;",
    "3IE;3DJERV;3MONOGRAPH UK;3YAT;3YU;3uiA;3uxYUS;3BIG YUS;3uiBIG YUS;lqhSUBSTITUTION MARKER;",
    "2slSUBSTITUTION MARKER;jSUBSTITUTIONqx;lSUBSTITUTIONqx;jslSUBSTITUTIONqx;",
    "lslSUBSTITUTIONqx;xcINTERPOLATION MARKER;1slINTERPOLATION MARKER;slTRANSPOSITION MARKER;",
    "jTRANSPOSITIONqx;lTRANSPOSITIONqx;xcxy;jxcOMISSIONqx;lxcOMISSIONqx;EDITORIAL CORONIS;",
    "PARAGRAPHOS;FORKED PARAGRAPHOS;xfFORKED PARAGRAPHOS;HYPODIASTOLE;slOBELOS;spANCORA;",
    "zkANCORA;slxgqh;fOBLIQUE HYPHEN;uhINTERROBANG;PALM BRANCH;HYPHENpsd;yspxha;",
    "juzPARAPHRASEqx;luzPARAPHRASEqx;yspsja;3d;jznqrpQUILL;lznqrpQUILL;TOPjtnqx;1ltnqx;qwjtnqx;",
    "1ltnqx;jSIDEWAYS Uqx;lSIDEWAYS Uqx;jfwn;lfwn;zeskwiwdsjwv;wdsjwizeskwv;xztdsjwv;tcsjve;",
    "xfwzve;znys;xhPOINT;WORDxnvjsj;zcrn;xcsj;1rn;zcSEMICOLON;DAGGERpjGUARD;2lGUARD;zcDAGGER;",
    "TOPtnxmn;TWO-EMry;THREE-EMry;STENOGRAPHICtfyb;znxusk;WIGGLYznuw;CAPITULUM;fHYPHEN;xfrn;",
    "fLOW-REVERSED-9xave;rypjUPTURN;fSUSPENSIONve;uhuzKAVYKA;3pKAVYKAa;uzKAVYKA;2psj;",
    "fSTACKEDrn;slxw;zaDAGGER;MEDIEVALrn;PARAGRAPHUSve;PUNCTUS ELEVATUSve;",
    "CORNISH VERSE DIVIDER;rsPATTYplCROSSBAR;3jCROSSBAR;TIRONIANneET;MEDIEVALsyve;1wzve;",
    "jxyqxpyd;lxyqxpyd;jxyqxpfyd;lxyqxpfyd;TOPtnjwn;2lwn;qwtnjwn;2lwn;OBLIQUE HYPHEN"]⟩,
  ⟨0x2E80, ["CJK RADICAL REPEAT;2CLIFF;2SECONDwd;3ze;3yq;2PERSON;2BOX;2TABLE;2KNIFEwd;3ze;",
    "2DIVINATION;2SEAL;2owd;3ze;2LAMEwd;3ze;3yq;3td;2SNAKE;2THREAD;2SNOUTwd;3ze;2tuwd;3ze;",
    "2HAND;2RAP;;2CHOKE;2SUN;2MOON;2DEATH;2MOTHER;2CIVILIAN;2WATERwd;3ze;2FIRE;2PAWwd;3ze;",
    "2SIMPLIFIEDtnTREE TRUNK;2COW;2DOG;2JADE;2BOLTvzCLOTH;2EYE;2SPIRITwd;3ze;2BAMBOO;2SILK;",
    "2qzSILK;2NETwd;3ze;3yq;3td;2MESH;2SHEEP;2RAM;2EWE;2wa;2BRUSHwd;3ze;2MEAT;2MORTAR;2GRASSwd;",
    "3ze;3yq;2TIGER;2CLOTHES;2zswd;3ze;2qzSEE;2SIMPLIFIED HORN;2HORN;2qzSPEECH;3SHELL;2FOOT;",
    "2qzCART;2SIMPLIFIED WALK;2WALKwd;3ze;2CITY;2qzGOLD;2uywd;3ze;2qzuy;3GATE;2MOUNDwd;3ze;",
    "2RAIN;2BLUE;2qzTANNED LEATHER;3LEAF;3WIND;3FLY;2EATwd;3ze;3yq;2qzEAT;2HEAD;2qzHORSE;2BONE;",
    "2GHOST;2qzFISH;3BIRD;3SALT;2SIMPLIFIED WHEAT;3YELLOW;2qzFROG;2J-SIMPLIFIED EVEN;2qzEVEN;",
    "2J-SIMPLIFIED TOOTH;2qzTOOTH;2J-SIMPLIFIED DRAGON;2qzDRAGON;2TURTLE;2J-SIMPLIFIED TURTLE;",
    "2qzTURTLE"]⟩,
  ⟨0x2F00, ["KANGXI RADICALwd;2uw;2sj;2SLASH;2SECOND;2ty;2ze;2LID;2MAN;2LEGS;2ENTER;2sr;2snBOX;",
    "2COVER;2ICE;2TABLE;2weBOX;2KNIFE;2POWER;2WRAP;2SPOON;2lweBOX;2HIDING ENCLOSURE;2yl;",
    "2DIVINATION;2SEAL;2CLIFF;2PRIVATE;2AGAIN;2MOUTH;2ENCLOSURE;2EARTH;2SCHOLAR;2GO;3SLOWLY;",
    "2EVENING;2BIG;2WOMAN;2CHILD;2ROOF;2INCH;2o;2LAME;2CORPSE;2SPROUT;2MOUNTAIN;2RIVER;2WORK;",
    "2ONESELF;2TURBAN;2DRY;2xrTHREAD;2slCLIFF;2uySTRIDE;2zeHANDS;2SHOOT;2BOW;2SNOUT;2BRISTLE;",
    "2STEP;2tu;2HALBERD;2DOOR;2HAND;2BRANCH;2RAP;2xl;2DIPPER;2AXE;2xy;2vw;2SUN;2SAY;2MOON;",
    "2TREE;2LACK;2yb;2DEATH;2WEAPON;2DOvw;2COMPARE;2FUR;2CLAN;2STEAM;2WATER;2FIRE;2CLAW;",
    "2FATHER;2fX;2tnTREE TRUNK;2SLICE;2FANG;2COW;2DOG;2PROFOUND;2JADE;2MELON;2TILE;2SWEET;",
    "2LIFE;2USE;2FIELD;2BOLTvzCLOTH;2SICKNESS;2slTENT;2zu;2SKIN;2DISH;2EYE;2SPEAR;2c;2STONE;",
    "2SPIRIT;2TRACK;2GRAIN;2CAVE;2STAND;2BAMBOO;2RICE;2SILK;2JAR;2NET;2SHEEP;2FEATHER;2wa;2b;",
    "2PLOW;2EAR;2BRUSH;2MEAT;2MINISTER;2SELF;2ARRIVE;2MORTAR;2TONGUE;2OPPOSE;2BOAT;2STOPPING;",
    "2COLOR;2GRASS;2TIGER;2INSECT;2BLOOD;2WALK ENCLOSURE;2CLOTHES;2zs;2SEE;2HORN;2SPEECH;",
    "2VALLEY;2BEAN;2PIG;2BADGER;2SHELL;2RED;2RUN;2FOOT;2BODY;2CART;2BITTER;2MORNING;2WALK;",
    "2CITY;2WINE;2DISTINGUISH;2VILLAGE;2GOLD;2uy;2GATE;2MOUND;2SLAVE;2xrTAILED BIRD;2RAIN;",
    "2BLUE;2WRONG;2sz;2LEATHER;2TANNED LEATHER;2LEEK;2SOUND;2LEAF;2WIND;2FLY;2EAT;2HEAD;",
    "2FRAGRANT;2HORSE;2BONE;2TALL;2HAIR;2FIGHT;2SACRIFICIAL WINE;2CAULDRON;2GHOST;2FISH;2BIRD;",
    "2SALT;2DEER;2WHEAT;2HEMP;2YELLOW;2MILLET;2qu;2EMBROIDERY;2FROG;2TRIPOD;2DRUM;2RAT;2NOSE;",
    "2EVEN;2TOOTH;2DRAGON;2TURTLE;2FLUTE"]⟩,
  ⟨0x2FF0, ["ubDESCRIPTION CHARACTERjyul;3ayud;3jyuvjbl;3ayuvjbd;3tfSURROUND;3SURROUND FROMa;",
    "5d;5j;5zij;6l;5vaj;3OVERLAID"]⟩,
  ⟨0x3000, ["ubSPACE;1rn;1tfyb;DITTOve;JAPANESE INDUSTRIAL STANDARDyi;ubITERATIONve;1CLOSINGve;",
    "1vxzz;jqhqx;lqhqx;jfqhqx;lfqhqx;jrrqx;lrrqx;jzurrqx;lzurrqx;jquLENTICULARqx;",
    "lquLENTICULARqx;POSTALve;GETAve;jywSHELLqx;lywSHELLqx;jzuLENTICULARqx;lzuLENTICULARqx;",
    "jzuywSHELLqx;lzuywSHELLqx;jzuxyqx;lzuxyqx;WAVEry;xffPRIMExave;fPRIMExave;uzfPRIMExave;",
    "POSTALvesz;HANGZHOU NUMERALwd;2ze;2yq;2td;2tc;2xu;2xo;2sr;2vs;ubLEVELyvve;1RISINGyvve;",
    "1DEPARTINGyvve;1ENTERINGyvve;HANGULxtsjyvve;1fsjyvve;WAVYry;znKANA REPEATve;",
    "3pVOICED SOUNDve;3vezitn;3pVOICED SOUNDvezitn;3vevatn;rhPOSTALve;ubTELEGRAPHuwFEEDxnyi;",
    "HANGZHOU NUMERALyl;2zd;2yo;znubITERATIONve;MASUve;PART ALTERNATIONve;",
    "ubVARIATION INDICATOR;1tnFILL SPACE;;HIRAGANAkoA;2A;2oI;2I;2oU;2U;2oE;2E;2oO;2O;2uk;2GA;",
    "2KI;2GI;2KU;2GU;2KE;2GE;2KO;2GO;2xj;2ZA;2SI;2ZI;2SU;2ZU;2SE;2ZE;2SO;2ZO;2yj;2DA;2TI;2DI;",
    "2oTU;2TU;2DU;2TE;2DE;2yu;2DO;2vo;2NI;2NU;2NE;2NO;2tl;2BA;2wl;2HI;2BI;2PI;2HU;2BU;2PU;2HE;",
    "2BE;2PE;2HO;2BO;2PO;2vb;2MI;2MU;2ME;2MO;2ozv;2zv;2oYU;2YU;2oYO;2YO;2xb;2RI;2RU;2RE;2RO;",
    "2oWA;2WA;2WI;2WE;2WO;2N;2VU;2ouk;3KE;;;rmKATAKANA-HIRAGANA VOICED SOUNDve;",
    "2SEMI-VOICED SOUNDve;KATAKANA-HIRAGANA VOICED SOUNDve;1SEMI-VOICED SOUNDve;",
    "HIRAGANA ITERATIONve;1VOICED ITERATIONve;1siYORI;KATAKANA-HIRAGANAfHYPHEN;KATAKANAkoA;2A;",
    "2oI;2I;2oU;2U;2oE;2E;2oO;2O;2uk;2GA;2KI;2GI;2KU;2GU;2KE;2GE;2KO;2GO;2xj;2ZA;2SI;2ZI;2SU;",
    "2ZU;2SE;2ZE;2SO;2ZO;2yj;2DA;2TI;2DI;2oTU;2TU;2DU;2TE;2DE;2yu;2DO;2vo;2NI;2NU;2NE;2NO;2tl;",
    "2BA;2wl;2HI;2BI;2PI;2HU;2BU;2PU;2HE;2BE;2PE;2HO;2BO;2PO;2vb;2MI;2MU;2ME;2MO;2ozv;2zv;2oYU;",
    "2YU;2oYO;2YO;2xb;2RI;2RU;2RE;2RO;2oWA;2WA;2WI;2WE;2WO;2N;2VU;2ouk;3KE;2VA;2VI;2VE;2VO;",
    "1vjsj;KATAKANA-HIRAGANA PROLONGED SOUNDve;KATAKANA ITERATIONve;1VOICED ITERATIONve;1siKOTO"]⟩,
  ⟨0x3105, ["BOPOMOFOkB;2P;2M;2F;2D;2T;2N;2L;2G;2K;2H;2J;2Q;2X;2ZH;2CH;2SH;2R;2Z;2C;2S;2A;2O;",
    "2E;2EH;2AI;2EI;2AU;2OU;2AN;2EN;2ANG;2ENG;2ER;2I;2U;2IU;2V;2NG;2GN;2IH;2Opsja;2NN;;",
    "HANGULkKIYEOK;2SSANGKIYEOK;2KIYEOK-SIOS;2NIEUN;2NIEUN-CIEUC;2NIEUN-HIEUH;2TIKEUT;",
    "2SSANGTIKEUT;2RIEUL;2RIEUL-KIYEOK;2RIEUL-MIEUM;2RIEUL-PIEUP;2RIEUL-SIOS;2RIEUL-THIEUTH;",
    "2RIEUL-PHIEUPH;2RIEUL-HIEUH;2MIEUM;2PIEUP;2SSANGPIEUP;2PIEUP-SIOS;2SIOS;2SSANGSIOS;2IEUNG;",
    "2CIEUC;2SSANGCIEUC;2CHIEUCH;2KHIEUKH;2THIEUTH;2PHIEUPH;2HIEUH;2A;2AE;2zv;2YAE;2EO;2E;2YEO;",
    "2YE;2O;2WA;2WAE;2OE;2YO;2U;2WEO;2WE;2WI;2YU;2EU;2YI;2I;1FILLER;1kSSANGNIEUN;2NIEUN-TIKEUT;",
    "2NIEUN-SIOS;2NIEUN-PANSIOS;2RIEUL-KIYEOK-SIOS;2RIEUL-TIKEUT;2RIEUL-PIEUP-SIOS;",
    "2RIEUL-PANSIOS;2RIEUL-YEORINHIEUH;2MIEUM-PIEUP;2MIEUM-SIOS;2MIEUM-PANSIOS;2KAPYEOUNMIEUM;",
    "2PIEUP-KIYEOK;2PIEUP-TIKEUT;2PIEUP-SIOS-KIYEOK;2PIEUP-SIOS-TIKEUT;2PIEUP-CIEUC;",
    "2PIEUP-THIEUTH;2KAPYEOUNPIEUP;2KAPYEOUNSSANGPIEUP;2SIOS-KIYEOK;2SIOS-NIEUN;2SIOS-TIKEUT;",
    "2SIOS-PIEUP;2SIOS-CIEUC;2PANSIOS;2SSANGIEUNG;2YESIEUNG;2YESIEUNG-SIOS;2YESIEUNG-PANSIOS;",
    "2KAPYEOUNPHIEUPH;2SSANGHIEUH;2YEORINHIEUH;2YO-YA;2YO-YAE;2YO-I;2YU-YEO;2YU-YE;2YU-I;",
    "2ARAEA;2ARAEAE;;ubANNOTATION LINKINGve;2xeve;2wdve;2zeve;2yqve;2tdve;2TOPve;2vjve;2qwve;",
    "2FIRSTve;2SECONDve;2THIRDve;2FOURTHve;2HEAVENve;2EARTHve;2MANve;BOPOMOFOkBU;2ZI;2JI;2GU;",
    "2EE;2ENN;2OO;2ONN;2IR;2ANN;2INN;2UNN;2IM;2NGG;2AINN;2AUNN;2AM;2OM;2ONG;2INNN;1gkP;3T;3K;",
    "3H;1kGH;2LH;2ZY;1gkG;1kGW;2KW;2OE;2AH;CJKydT;2WG;2XG;2BXG;2SW;2HZZ;2HZG;2HP;2HZWG;2SZWG;",
    "2HZT;2HZZP;2HPWG;2HZW;2HZZZ;2N;2H;2S;2P;2SP;2D;2HZ;2HG;2SZ;2SWZ;2ST;2SG;2PD;2PZ;2TN;2SZZ;",
    "2SWG;2HXWG;2HZZZG;2PG;2Q"]⟩,
  ⟨0x31F0, ["KATAKANAkoKU;3SI;3SU;3yu;3NU;3tl;3HI;3HU;3HE;3HO;3MU;3xb;3RI;3RU;3RE;3RO;",
    "PARENTHESIZED HANGUL KIYEOK;2NIEUN;2TIKEUT;2RIEUL;2MIEUM;2PIEUP;2SIOS;2IEUNG;2CIEUC;",
    "2CHIEUCH;2KHIEUKH;2THIEUTH;2PHIEUPH;2HIEUH;2KIYEOK A;2NIEUN A;2TIKEUT A;2RIEUL A;2MIEUM A;",
    "2PIEUP A;2SIOS A;2IEUNG A;2CIEUC A;2CHIEUCH A;2KHIEUKH A;2THIEUTH A;2PHIEUPH A;2HIEUH A;",
    "2CIEUC U;1KOREAN CHARACTER OJEON;3O HU;;1IDEOGRAPHwd;2ze;2yq;2td;2tc;2xu;2xo;2sr;2vs;2yl;",
    "2MOON;2FIRE;2WATER;2WOOD;2METAL;2EARTH;2SUN;2STOCK;2HAVE;2SOCIETY;2NAME;2SPECIAL;",
    "2FINANCIAL;2CONGRATULATION;2LABOR;2REPRESENT;2CALL;2STUDY;2SUPERVISE;2ENTERPRISE;",
    "2RESOURCE;2ALLIANCE;2FESTIVAL;2REST;2SELF;2REACH;rhIDEOGRAPHwz;2KINDERGARTEN;2SCHOOL;",
    "2KOTO;1vxylONquxy;2zdONquxy;2yoONquxy;2FORTY ONquxy;2taONquxy;2SIXTY ONquxy;2xpONquxy;",
    "2EIGHTY ONquxy;PARTNERSHIPn;rhvxzdwd;3ze;3yq;3td;3tc;3xu;3xo;3sr;3vs;2yo;3wd;3ze;3yq;3td;",
    "3tc;1HANGUL KIYEOK;2NIEUN;2TIKEUT;2RIEUL;2MIEUM;2PIEUP;2SIOS;2IEUNG;2CIEUC;2CHIEUCH;",
    "2KHIEUKH;2THIEUTH;2PHIEUPH;2HIEUH;2KIYEOK A;2NIEUN A;2TIKEUT A;2RIEUL A;2MIEUM A;2PIEUP A;",
    "2SIOS A;2IEUNG A;2CIEUC A;2CHIEUCH A;2KHIEUKH A;2THIEUTH A;2PHIEUPH A;2HIEUH A;",
    "1KOREAN CHARACTER CHAMKO;3JUEUI;1HANGUL IEUNG U;KOREAN STANDARDyi;rhIDEOGRAPHwd;2ze;2yq;",
    "2td;2tc;2xu;2xo;2sr;2vs;2yl;2MOON;2FIRE;2WATER;2WOOD;2METAL;2EARTH;2SUN;2STOCK;2HAVE;",
    "2SOCIETY;2NAME;2SPECIAL;2FINANCIAL;2CONGRATULATION;2LABOR;2SECRET;2MALE;2FEMALE;2SUITABLE;",
    "2EXCELLENT;2PRINT;2ATTENTION;2ITEM;2REST;2COPY;2CORRECT;2tw;2rd;2uz;2j;2l;2MEDICINE;",
    "2RELIGION;2STUDY;2SUPERVISE;2ENTERPRISE;2RESOURCE;2ALLIANCE;2NIGHT;1vxyoxu;3xo;3sr;3vs;",
    "2FORTY;3wd;3ze;3yq;3td;3tc;3xu;3xo;3sr;3vs;2ta;ubTELEGRAPHyiFOR JANUARY;4FEBRUARY;4MARCH;",
    "4APRIL;4MAY;4JUNE;4JULY;4AUGUST;4SEPTEMBER;4OCTOBER;4NOVEMBER;4DECEMBER;xyHG;1ERG;1EV;",
    "LIMITED LIABILITYn;rhKATAKANA A;2I;2U;2E;2O;2uk;2KI;2KU;2KE;2KO;2xj;2SI;2SU;2SE;2SO;2yj;",
    "2TI;2TU;2TE;2yu;2vo;2NI;2NU;2NE;2NO;2tl;2HI;2HU;2HE;2HO;2vb;2MI;2MU;2ME;2MO;2zv;2YU;2YO;",
    "2xb;2RI;2RU;2RE;2RO;2WA;2WI;2WE;2WO;xyERA NAME REIWA;1APAATO;1ARUHUA;1ANPEA;1AARU;1ININGU;",
    "1INTI;1UON;1ESUKUUDO;1EEKAA;1ONSU;1OOMU;1KAIRI;1KARATTO;1KARORII;1GARON;1GANMA;1GIGA;",
    "1GINII;1KYURII;1GIRUDAA;1KIRO;1KIROGURAMU;1KIROMEETORU;1KIROWATTO;1GURAMU;1GURAMUTON;",
    "1KURUZEIRO;1KUROONE;1KEESU;1KORUNA;1KOOPO;1SAIKURU;1SANTIIMU;1SIRINGU;1SENTI;1SENTO;",
    "1DAASU;1DESI;1DORU;1TON;1NANO;1NOTTO;1HAITU;1PAASENTO;1PAATU;1BAARERU;1PIASUTORU;1PIKURU;",
    "1PIKO;1BIRU;1HUARADDO;1HUIITO;1BUSSYERU;1HURAN;1HEKUTAARU;1PESO;1PENIHI;1HERUTU;1PENSU;",
    "1PEEZI;1BEETA;1POINTO;1BORUTO;1HON;1PONDO;1HOORU;1HOON;1MAIKURO;1MAIRU;1MAHHA;1MARUKU;",
    "1MANSYON;1MIKURON;1MIRI;1MIRIBAARU;1MEGA;1MEGATON;1MEETORU;1YAADO;1YAARU;1YUAN;1RITTORU;",
    "1RIRA;1RUPII;1RUUBURU;1REMU;1RENTOGEN;1WATTO;ubTELEGRAPHyiFOR HOURzz;5wd;5ze;5yq;5td;5tc;",
    "5xu;5xo;5sr;5vs;5yl;5ELEVEN;5TWELVE;5THIRTEEN;5FOURTEEN;5FIFTEEN;5SIXTEEN;5SEVENTEEN;",
    "5EIGHTEEN;5NINETEEN;5zd;5TWENTY-ONE;5TWENTY-TWO;5TWENTY-THREE;5TWENTY-FOUR;xyHPA;1DA;1AU;",
    "1qr;1OV;1PC;1DM;2xz;2CUBED;1IU;1ERA NAME HEISEI;3SYOUWA;3TAISYOU;3MEIZI;1CORPORATION;",
    "1wlAMPS;1vo;1MU A;1vb;1uk;1KB;1MB;1GB;1CAL;1KCAL;1PF;1NF;1MU F;2G;1MG;1KG;1HZ;1KHZ;1MHZ;",
    "1GHZ;1THZ;1MU L;1ML;1DL;1KL;1FM;1NM;1MU M;1MM;1CM;1KM;1MMxz;1CMxz;1Mxz;1KMxz;1MM CUBED;",
    "1CM CUBED;1M CUBED;1KM CUBED;1MwiS;4xz;1wl;1KPA;1MPA;1GPA;1RAD;2wiS;4xz;1PS;1NS;1MU S;1MS;",
    "1PV;1NV;1MU V;1MV;1KV;1MV MEGA;1PW;1NW;1MU W;1MW;1KW;1MW MEGA;1K OHM;1M OHM;1AM;1BQ;1CC;",
    "1CD;1CwiKG;1CO;1DB;1GY;1tl;1HP;1IN;1KK;1KMe;1KT;1LM;1LN;1LOG;1LX;1MBo;1MIL;1MOL;1PH;1PM;",
    "1PPM;1PR;1SR;1SV;1WB;1VwiM;1AwiM;ubTELEGRAPHyiFOR DAYwd;5ze;5yq;5td;5tc;5xu;5xo;5sr;5vs;",
    "5yl;5ELEVEN;5TWELVE;5THIRTEEN;5FOURTEEN;5FIFTEEN;5SIXTEEN;5SEVENTEEN;5EIGHTEEN;5NINETEEN;",
    "5zd;5TWENTY-ONE;5TWENTY-TWO;5TWENTY-THREE;5TWENTY-FOUR;5TWENTY-FIVE;5TWENTY-SIX;",
    "5TWENTY-SEVEN;5TWENTY-EIGHT;5TWENTY-NINE;5yo;5THIRTY-ONE;xyGAL"]⟩,
  ⟨0x4DC0, ["HEXAGRAM FOR THE CREATIVE HEAVEN;3RECEPTIVE EARTH;2DIFFICULTY AT THE BEGINNING;",
    "2YOUTHFUL FOLLY;2WAITING;2CONFLICT;2THE ARMY;2HOLDING TOGETHER;2oTAMING;2TREADING;2PEACE;",
    "2STANDSTILL;2FELLOWSHIP;2GREAT POSSESSION;2MODESTY;2ENTHUSIASM;2FOLLOWING;",
    "2WORK ON THE DECAYED;2APPROACH;2CONTEMPLATION;2BITING THROUGH;2GRACE;2SPLITTING APART;",
    "2RETURN;2INNOCENCE;2GREAT TAMING;2MOUTH CORNERS;2GREAT PREPONDERANCE;2THE ABYSMAL WATER;",
    "3CLINGING FIRE;2INFLUENCE;2DURATION;2RETREAT;2GREAT POWER;2PROGRESS;2DARKENINGvzTHEuv;",
    "2THE FAMILY;2OPPOSITION;2OBSTRUCTION;2DELIVERANCE;2DECREASE;2INCREASE;2BREAKTHROUGH;",
    "2COMINGyuMEET;2GATHERING TOGETHER;2PUSHING UPWARD;2OPPRESSION;2THE WELL;2REVOLUTION;",
    "2THE CAULDRON;3AROUSING THUNDER;3KEEPING STILL MOUNTAIN;2DEVELOPMENT;2THE MARRYING MAIDEN;",
    "2ABUNDANCE;2THE WANDERER;3GENTLE WIND;3JOYOUS LAKE;2DISPERSION;2LIMITATION;2INNER TRUTH;",
    "2oPREPONDERANCE;2AFTER COMPLETION;2BEFORE COMPLETION"]⟩,
  ⟨0xA000, ["YIyhIT;2IX;2I;2IP;2IET;2IEX;2IE;2IEP;2AT;2AX;2A;2AP;2UOX;2UO;2UOP;2OT;2OX;2O;2OP;",
    "2EX;2E;2WU;2BIT;2BIX;2BI;2BIP;2BIET;2BIEX;2BIE;2BIEP;2BAT;2BAX;2BA;2BAP;2BUOX;2BUO;2BUOP;",
    "2BOT;2BOX;2BO;2BOP;2BEX;2BE;2BEP;2BUT;2BUX;2BU;2BUP;2BURX;2BUR;2BYT;2BYX;2BY;2BYP;2BYRX;",
    "2BYR;2PIT;2PIX;2PI;2PIP;2PIEX;2PIE;2PIEP;2PAT;2PAX;2wl;2PAP;2PUOX;2PUO;2PUOP;2POT;2POX;",
    "2PO;2POP;2PUT;2PUX;2PU;2PUP;2PURX;2PUR;2PYT;2PYX;2PY;2PYP;2PYRX;2PYR;2BBIT;2BBIX;2BBI;",
    "2BBIP;2BBIET;2BBIEX;2BBIE;2BBIEP;2BBAT;2BBAX;2BBA;2BBAP;2BBUOX;2BBUO;2BBUOP;2BBOT;2BBOX;",
    "2BBO;2BBOP;2BBEX;2BBE;2BBEP;2BBUT;2BBUX;2BBU;2BBUP;2BBURX;2BBUR;2BBYT;2BBYX;2BBY;2BBYP;",
    "2NBIT;2NBIX;2NBI;2NBIP;2NBIEX;2NBIE;2NBIEP;2NBAT;2NBAX;2NBA;2NBAP;2NBOT;2NBOX;2NBO;2NBOP;",
    "2NBUT;2NBUX;2NBU;2NBUP;2NBURX;2NBUR;2NBYT;2NBYX;2NBY;2NBYP;2NBYRX;2NBYR;2HMIT;2HMIX;2HMI;",
    "2HMIP;2HMIEX;2HMIE;2HMIEP;2HMAT;2HMAX;2HMA;2HMAP;2HMUOX;2HMUO;2HMUOP;2HMOT;2HMOX;2HMO;",
    "2HMOP;2HMUT;2HMUX;2HMU;2HMUP;2HMURX;2HMUR;2HMYX;2HMY;2HMYP;2HMYRX;2HMYR;2MIT;2MIX;2MI;",
    "2MIP;2MIEX;2MIE;2MIEP;2MAT;2MAX;2vb;2MAP;2MUOT;2MUOX;2MUO;2MUOP;2MOT;2MOX;2MO;2MOP;2MEX;",
    "2ME;2MUT;2MUX;2MU;2MUP;2MURX;2MUR;2MYT;2MYX;2MY;2MYP;2FIT;2FIX;2FI;2FIP;2FAT;2FAX;2FA;",
    "2FAP;2FOX;2FO;2FOP;2FUT;2FUX;2FU;2FUP;2FURX;2FUR;2FYT;2FYX;2FY;2FYP;2VIT;2VIX;2VI;2VIP;",
    "2VIET;2VIEX;2VIE;2VIEP;2VAT;2VAX;2VA;2VAP;2VOT;2VOX;2VO;2VOP;2VEX;2VEP;2VUT;2VUX;2VU;2VUP;",
    "2VURX;2VUR;2VYT;2VYX;2VY;2VYP;2VYRX;2VYR;2DIT;2DIX;2DI;2DIP;2DIEX;2DIE;2DIEP;2DAT;2DAX;",
    "2DA;2DAP;2DUOX;2DUO;2sj;2DOX;2DO;2DOP;2DEX;2DE;2DEP;2DUT;2DUX;2DU;2DUP;2DURX;2DUR;2TIT;",
    "2TIX;2TI;2TIP;2TIEX;2TIE;2TIEP;2TAT;2TAX;2yj;2TAP;2TUOT;2TUOX;2TUO;2TUOP;2TOT;2TOX;2yu;",
    "2TOP;2TEX;2TE;2TEP;2TUT;2TUX;2TU;2TUP;2TURX;2TUR;2DDIT;2DDIX;2DDI;2DDIP;2DDIEX;2DDIE;",
    "2DDIEP;2DDAT;2DDAX;2DDA;2DDAP;2DDUOX;2DDUO;2DDUOP;2DDOT;2DDOX;2DDO;2DDOP;2DDEX;2DDE;2DDEP;",
    "2DDUT;2DDUX;2DDU;2DDUP;2DDURX;2DDUR;2NDIT;2NDIX;2NDI;2NDIP;2NDIEX;2NDIE;2NDAT;2NDAX;2NDA;",
    "2NDAP;2NDOT;2NDOX;2NDO;2NDOP;2NDEX;2NDE;2NDEP;2NDUT;2NDUX;2NDU;2NDUP;2NDURX;2NDUR;2HNIT;",
    "2HNIX;2HNI;2HNIP;2HNIET;2HNIEX;2HNIE;2HNIEP;2HNAT;2HNAX;2HNA;2HNAP;2HNUOX;2HNUO;2HNOT;",
    "2HNOX;2HNOP;2HNEX;2HNE;2HNEP;2HNUT;2NIT;2NIX;2NI;2NIP;2NIEX;2NIE;2NIEP;2NAX;2vo;2NAP;",
    "2NUOX;2NUO;2NUOP;2vw;2NOX;2NO;2NOP;2NEX;2NE;2NEP;2NUT;2NUX;2NU;2NUP;2NURX;2NUR;2HLIT;",
    "2HLIX;2HLI;2HLIP;2HLIEX;2HLIE;2HLIEP;2HLAT;2HLAX;2HLA;2HLAP;2HLUOX;2HLUO;2HLUOP;2HLOX;",
    "2HLO;2HLOP;2HLEX;2HLE;2HLEP;2HLUT;2HLUX;2HLU;2HLUP;2HLURX;2HLUR;2HLYT;2HLYX;2HLY;2HLYP;",
    "2HLYRX;2HLYR;2LIT;2LIX;2LI;2LIP;2LIET;2LIEX;2LIE;2LIEP;2LAT;2LAX;2uo;2LAP;2LUOT;2LUOX;",
    "2LUO;2LUOP;2LOT;2LOX;2LO;2LOP;2LEX;2LE;2LEP;2LUT;2LUX;2LU;2LUP;2LURX;2LUR;2LYT;2LYX;2LY;",
    "2LYP;2LYRX;2LYR;2GIT;2GIX;2GI;2GIP;2GIET;2GIEX;2GIE;2GIEP;2GAT;2GAX;2GA;2GAP;2GUOT;2GUOX;",
    "2GUO;2GUOP;2GOT;2GOX;2GO;2GOP;2GET;2GEX;2GE;2GEP;2GUT;2GUX;2GU;2GUP;2GURX;2GUR;2KIT;2KIX;",
    "2KI;2KIP;2KIEX;2KIE;2KIEP;2KAT;2KAX;2uk;2KAP;2KUOX;2KUO;2KUOP;2KOT;2KOX;2KO;2KOP;2KET;",
    "2KEX;2KE;2KEP;2KUT;2KUX;2KU;2KUP;2KURX;2KUR;2GGIT;2GGIX;2GGI;2GGIEX;2GGIE;2GGIEP;2GGAT;",
    "2GGAX;2GGA;2GGAP;2GGUOT;2GGUOX;2GGUO;2GGUOP;2GGOT;2GGOX;2GGO;2GGOP;2GGET;2GGEX;2GGE;2GGEP;",
    "2GGUT;2GGUX;2GGU;2GGUP;2GGURX;2GGUR;2MGIEX;2MGIE;2MGAT;2MGAX;2MGA;2MGAP;2MGUOX;2MGUO;",
    "2MGUOP;2MGOT;2MGOX;2MGO;2MGOP;2MGEX;2MGE;2MGEP;2MGUT;2MGUX;2MGU;2MGUP;2MGURX;2MGUR;2HXIT;",
    "2HXIX;2HXI;2HXIP;2HXIET;2HXIEX;2HXIE;2HXIEP;2HXAT;2HXAX;2HXA;2HXAP;2HXUOT;2HXUOX;2HXUO;",
    "2HXUOP;2HXOT;2HXOX;2HXO;2HXOP;2HXEX;2HXE;2HXEP;2NGIEX;2NGIE;2NGIEP;2NGAT;2NGAX;2vr;2NGAP;",
    "2NGUOT;2NGUOX;2NGUO;2NGOT;2NGOX;2NGO;2NGOP;2NGEX;2NGE;2NGEP;2HIT;2HIEX;2HIE;2HAT;2HAX;2tl;",
    "2HAP;2HUOT;2HUOX;2HUO;2HUOP;2HOT;2HOX;2HO;2HOP;2HEX;2HE;2HEP;2WAT;2WAX;2WA;2WAP;2WUOX;",
    "2WUO;2WUOP;2WOX;2WO;2WOP;2WEX;2WE;2WEP;2ZIT;2ZIX;2ZI;2ZIP;2ZIEX;2ZIE;2ZIEP;2ZAT;2ZAX;2ZA;",
    "2ZAP;2ZUOX;2ZUO;2ZUOP;2ZOT;2ZOX;2ZO;2ZOP;2ZEX;2ZE;2ZEP;2ZUT;2ZUX;2ZU;2ZUP;2ZURX;2ZUR;2ZYT;",
    "2ZYX;2ZY;2ZYP;2ZYRX;2ZYR;2CIT;2CIX;2CI;2CIP;2CIET;2CIEX;2CIE;2CIEP;2CAT;2CAX;2CA;2CAP;",
    "2CUOX;2CUO;2CUOP;2COT;2COX;2CO;2COP;2CEX;2CE;2CEP;2CUT;2CUX;2CU;2CUP;2CURX;2CUR;2CYT;2CYX;",
    "2CY;2CYP;2CYRX;2CYR;2ZZIT;2ZZIX;2ZZI;2ZZIP;2ZZIET;2ZZIEX;2ZZIE;2ZZIEP;2ZZAT;2ZZAX;2ZZA;",
    "2ZZAP;2ZZOX;2ZZO;2ZZOP;2ZZEX;2ZZE;2ZZEP;2ZZUX;2ZZU;2ZZUP;2ZZURX;2ZZUR;2ZZYT;2ZZYX;2ZZY;",
    "2ZZYP;2ZZYRX;2ZZYR;2NZIT;2NZIX;2NZI;2NZIP;2NZIEX;2NZIE;2NZIEP;2NZAT;2NZAX;2NZA;2NZAP;",
    "2NZUOX;2NZUO;2NZOX;2NZOP;2NZEX;2NZE;2NZUX;2NZU;2NZUP;2NZURX;2NZUR;2NZYT;2NZYX;2NZY;2NZYP;",
    "2NZYRX;2NZYR;2SIT;2xu;2SI;2SIP;2SIEX;2SIE;2SIEP;2SAT;2SAX;2xj;2SAP;2SUOX;2SUO;2SUOP;2SOT;",
    "2SOX;2SO;2SOP;2SEX;2SE;2SEP;2SUT;2SUX;2SU;2SUP;2SURX;2SUR;2SYT;2SYX;2SY;2SYP;2SYRX;2SYR;",
    "2SSIT;2SSIX;2SSI;2SSIP;2SSIEX;2SSIE;2SSIEP;2SSAT;2SSAX;2SSA;2SSAP;2SSOT;2SSOX;2SSO;2SSOP;",
    "2SSEX;2SSE;2SSEP;2SSUT;2SSUX;2SSU;2SSUP;2SSYT;2SSYX;2SSY;2SSYP;2SSYRX;2SSYR;2ZHAT;2ZHAX;",
    "2ZHA;2ZHAP;2ZHUOX;2ZHUO;2ZHUOP;2ZHOT;2ZHOX;2ZHO;2ZHOP;2ZHET;2ZHEX;2ZHE;2ZHEP;2ZHUT;2ZHUX;",
    "2ZHU;2ZHUP;2ZHURX;2ZHUR;2ZHYT;2ZHYX;2ZHY;2ZHYP;2ZHYRX;2ZHYR;2CHAT;2CHAX;2re;2CHAP;2CHUOT;",
    "2CHUOX;2CHUO;2CHUOP;2CHOT;2CHOX;2CHO;2CHOP;2CHET;2CHEX;2CHE;2CHEP;2CHUX;2CHU;2CHUP;2CHURX;",
    "2CHUR;2CHYT;2CHYX;2CHY;2CHYP;2CHYRX;2CHYR;2RRAX;2RRA;2RRUOX;2RRUO;2RROT;2RROX;2RRO;2RROP;",
    "2RRET;2RREX;2RRE;2RREP;2RRUT;2RRUX;2RRU;2RRUP;2RRURX;2RRUR;2RRYT;2RRYX;2RRY;2RRYP;2RRYRX;",
    "2RRYR;2NRAT;2NRAX;2NRA;2NRAP;2NROX;2NRO;2NROP;2NRET;2NREX;2NRE;2NREP;2NRUT;2NRUX;2NRU;",
    "2NRUP;2NRURX;2NRUR;2NRYT;2NRYX;2NRY;2NRYP;2NRYRX;2NRYR;2SHAT;2SHAX;2xq;2SHAP;2SHUOX;2SHUO;",
    "2SHUOP;2SHOT;2SHOX;2SHO;2SHOP;2SHET;2SHEX;2SHE;2SHEP;2SHUT;2SHUX;2SHU;2SHUP;2SHURX;2SHUR;",
    "2SHYT;2SHYX;2SHY;2SHYP;2SHYRX;2SHYR;2RAT;2RAX;2xb;2RAP;2RUOX;2RUO;2RUOP;2ROT;2ROX;2RO;",
    "2ROP;2REX;2RE;2REP;2RUT;2RUX;2RU;2RUP;2RURX;2RUR;2RYT;2RYX;2RY;2RYP;2RYRX;2RYR;2JIT;2JIX;",
    "2JI;2JIP;2JIET;2JIEX;2JIE;2JIEP;2JUOT;2JUOX;2JUO;2JUOP;2JOT;2JOX;2JO;2JOP;2JUT;2JUX;2JU;",
    "2JUP;2JURX;2JUR;2JYT;2JYX;2JY;2JYP;2JYRX;2JYR;2QIT;2QIX;2QI;2QIP;2QIET;2QIEX;2QIE;2QIEP;",
    "2QUOT;2QUOX;2QUO;2QUOP;2QOT;2QOX;2QO;2QOP;2QUT;2QUX;2QU;2QUP;2QURX;2QUR;2QYT;2QYX;2QY;",
    "2QYP;2QYRX;2QYR;2JJIT;2JJIX;2JJI;2JJIP;2JJIET;2JJIEX;2JJIE;2JJIEP;2JJUOX;2JJUO;2JJUOP;",
    "2JJOT;2JJOX;2JJO;2JJOP;2JJUT;2JJUX;2JJU;2JJUP;2JJURX;2JJUR;2JJYT;2JJYX;2JJY;2JJYP;2NJIT;",
    "2NJIX;2NJI;2NJIP;2NJIET;2NJIEX;2NJIE;2NJIEP;2NJUOX;2NJUO;2NJOT;2NJOX;2NJO;2NJOP;2NJUX;",
    "2NJU;2NJUP;2NJURX;2NJUR;2NJYT;2NJYX;2NJY;2NJYP;2NJYRX;2NJYR;2NYIT;2NYIX;2NYI;2NYIP;2NYIET;",
    "2NYIEX;2NYIE;2NYIEP;2NYUOX;2NYUO;2NYUOP;2NYOT;2NYOX;2NYO;2NYOP;2NYUT;2NYUX;2NYU;2NYUP;",
    "2XIT;2XIX;2XI;2XIP;2XIET;2XIEX;2XIE;2XIEP;2XUOX;2XUO;2XOT;2XOX;2XO;2XOP;2XYT;2XYX;2XY;",
    "2XYP;2XYRX;2XYR;2YIT;2YIX;2YI;2YIP;2YIET;2YIEX;2YIE;2YIEP;2YUOT;2YUOX;2YUO;2YUOP;2YOT;",
    "2YOX;2YO;2YOP;2YUT;2YUX;2YU;2YUP;2YURX;2YUR;2YYT;2YYX;2YY;2YYP;2YYRX;2YYR"]⟩,
  ⟨0xA490, ["YI RADICAL QOT;2LI;2KIT;2NYIP;2CYP;2SSI;2GGOP;2GEP;2MI;2HXIT;2LYR;2BBUT;2MOP;2YO;",
    "2PUT;2HXUO;2TAT;2GA;2ZUP;2CYT;2DDUR;2BUR;2GGUO;2NYOP;2TU;2OP;2JJUT;2ZOT;2PYT;2HMO;2YIT;",
    "2VUR;2SHY;2VEP;2ZA;2JO;2NZUP;2JJY;2GOT;2JJIE;2WO;2DU;2SHUR;2LIE;2CY;2CUOP;2CIP;2HXOP;",
    "2SHAT;2ZUR;2SHOP;2CHE;2ZZIET;2NBIE;2KE"]⟩,
  ⟨0xA4D0, ["LISUkBA;2wl;2wp;2DA;2yj;2yn;2GA;2uk;2ul;2JA;2CA;2re;2DZA;2TSA;2TSHA;2vb;2vo;2uo;",
    "2xj;2ZHA;2ZA;2vr;2tl;2XA;2HHA;2FA;2WA;2xq;2zv;2GHA;2A;2AE;2E;2EU;2I;2O;2U;2UE;2UH;2OE;",
    "2yvMYA TI;3voPO;3MYA CYA;4BO;4vo;4JEU;1wvrn;2tfyb;VAIyhEE;2EEN;2HEE;2WEE;2WEEN;2PEE;2BHEE;",
    "2BEE;2MBEE;2KPEE;2MGBEE;2GBEE;2FEE;2VEE;2TEE;2THEE;2DHEE;2DHHEE;2LEE;2REE;2DEE;2NDEE;2SEE;",
    "2SHEE;2ZEE;2ZHEE;2CEE;2JEE;2NJEE;2YEE;2KEE;2NGGEE;2GEE;2MEE;2NEE;2NYEE;2I;2IN;2HI;2HIN;",
    "2WI;2WIN;2PI;2BHI;2BI;2MBI;2KPI;2MGBI;2GBI;2FI;2VI;2TI;2THI;2DHI;2DHHI;2LI;2RI;2DI;2NDI;",
    "2SI;2SHI;2ZI;2ZHI;2CI;2JI;2NJI;2YI;2KI;2NGGI;2GI;2MI;2NI;2NYI;2A;2AN;2NGAN;2tl;2HAN;2WA;",
    "2WAN;2wl;2BHA;2BA;2MBA;2KPA;2KPAN;2MGBA;2GBA;2FA;2VA;2yj;2yn;2DHA;2DHHA;2uo;2xb;2DA;2NDA;",
    "2xj;2xq;2ZA;2ZHA;2CA;2JA;2NJA;2zv;2uk;2KAN;2NGGA;2GA;2vb;2vo;2vy;2OO;2OON;2HOO;2WOO;2WOON;",
    "2POO;2BHOO;2BOO;2MBOO;2KPOO;2MGBOO;2GBOO;2FOO;2VOO;2TOO;2THOO;2DHOO;2DHHOO;2LOO;2ROO;2DOO;",
    "2NDOO;2SOO;2SHOO;2ZOO;2ZHOO;2COO;2JOO;2NJOO;2YOO;2KOO;2NGGOO;2GOO;2MOO;2NOO;2NYOO;2U;2UN;",
    "2HU;2HUN;2WU;2WUN;2PU;2BHU;2BU;2MBU;2KPU;2MGBU;2GBU;2FU;2VU;2TU;2THU;2DHU;2DHHU;2LU;2RU;",
    "2DU;2NDU;2SU;2SHU;2ZU;2ZHU;2CU;2JU;2NJU;2YU;2KU;2NGGU;2GU;2MU;2NU;2NYU;2O;2ON;2NGON;2HO;",
    "2HON;2WO;2WON;2PO;2BHO;2BO;2MBO;2KPO;2MGBO;2GBO;2GBON;2FO;2VO;2yu;2THO;2DHO;2DHHO;2LO;2RO;",
    "2DO;2NDO;2SO;2SHO;2ZO;2ZHO;2CO;2JO;2NJO;2YO;2KO;2NGGO;2GO;2MO;2NO;2NYO;2E;2EN;2NGEN;2HE;",
    "2HEN;2WE;2WEN;2PE;2BHE;2BE;2MBE;2KPE;2KPEN;2MGBE;2GBE;2GBEN;2FE;2VE;2TE;2THE;2DHE;2DHHE;",
    "2LE;2RE;2DE;2NDE;2SE;2SHE;2ZE;2ZHE;2CE;2JE;2NJE;2YE;2KE;2NGGE;2NGGEN;2GE;2GEN;2ME;2NE;",
    "2NYE;2NG;2LENGTHENER;1rn;1tfyb;1wzve;1yhNDOLE FA;3uk;3SOO;1yiFEENG;2KEENG;2TING;2NII;",
    "2BANG;2FAA;2TAA;2DANG;2DOONG;2KUNG;2TONG;2DO-O;2JONG;1shzz;2wd;2ze;2yq;2td;2tc;2xu;2xo;",
    "2sr;2vs;1yhNDOLEvb;3DO"]⟩,
  ⟨0xA640, ["CYRILLICekZEMLYA;1okZEMLYA;1ekDZELO;1okDZELO;1ekxfDZE;1okxfDZE;1ekIOTA;1okIOTA;",
    "1ekDJERV;1okDJERV;1ekMONOGRAPH UK;1okMONOGRAPH UK;1ekBROADwb;1okBROADwb;1ekvqYER;1okvqYER;",
    "1ekYERUpBACK YER;1okYERUpBACK YER;1ekuiYAT;1okuiYAT;1ekxfYU;1okxfYU;1ekuiA;1okuiA;",
    "1ekrkuxYUS;1okrkuxYUS;1ekBLENDED YUS;1okBLENDED YUS;1ekuirkuxYUS;1okuirkuxYUS;1ekYN;1okYN;",
    "1ekxfTSE;1okxfTSE;1ekSOFT DE;1okSOFT DE;1ekSOFT EL;1okSOFT EL;1ekSOFT EM;1okSOFT EM;",
    "1ekMONOCULAR O;1okMONOCULAR O;1ekBINOCULAR O;1okBINOCULAR O;1ekfMONOCULAR O;",
    "1okfMONOCULAR O;1kMULTIOCULAR O;rmCYRILLIC VZMET;2ylMILLIONSn;2uaMILLIONSn;2ypMILLIONSn;",
    "SLAVONICqp;rmCYRILLICkUKRAINIAN IE;3I;3YI;3U;3HARDn;3YERU;3SOFTn;3wb;2KAVYKA;2PAYEROK;",
    "CYRILLIC KAVYKA;1PAYEROK;1ekDWE;1okDWE;1ekDZWE;1okDZWE;1ekZHWE;1okZHWE;1ekCCHE;1okCCHE;",
    "1ekDZZE;1okDZZE;1ekTEpvjty;1okTEpvjty;1ekTWE;1okTWE;1ekTSWE;1okTSWE;1ekTSSE;1okTSSE;",
    "1ekTCHE;1okTCHE;1ekHWE;1okHWE;1ekSHWE;1okSHWE;1ekfO;1okfO;1ekCROSSED O;1okCROSSED O;",
    "vkkCYRILLIC HARDn;3SOFTn;rmCYRILLICkEF;3uiE;BAMUMkA;2uk;2U;2KU;2EE;2REE;2TAE;2O;2NYI;2I;",
    "2uo;2wl;2RII;2RIEE;2LEEEE;2MEEEE;2TAA;2NDAA;2NJAEM;2M;2SUU;2MU;2SHII;2SI;2SHEUX;2SEUX;",
    "2KYEE;2KET;2NUAE;2NU;2NJUAE;2YOQ;2SHU;2YUQ;2zv;2NSHA;2KEUX;2PEUX;2NJEE;2NTEE;2PUE;2WUE;",
    "2PEE;2FEE;2RU;2LU;2MI;2NI;2REUX;2RAE;2KEN;2NGKWAEN;2NGGA;2vr;2SHO;2PUAE;2FU;2FOM;2WA;2vo;",
    "2LI;2PI;2LOQ;2KO;2MBEN;2REN;2MEN;2vb;2TI;2KI;2MO;2MBAA;2TET;2KPA;2yl;2NTUU;2SAMBA;2FAAMAE;",
    "2KOVUU;2KOGHOM;1rmveKOQNDON;3TUKWENTIS;1NJAEMLI;1tfyb;1rl;1rn;1SEMICOLON;1wzve"]⟩]

end StructGen.Text.CharacterName
